import Mailroom.Proofs.Calendar.Showing
import Mailroom.Proofs.Number.Plain

/-!
# Years of fewer than four digits

The forms of a date are tried in a fixed order and the first one that fits decides. Each of them
takes the year from digits of the text: time stamps and dates of three numbers or with the name of a
month insist on four of them, and a message header counts two and three digits from a century on.
The patterns take what is there, up to four digits, for the year itself, so `05/07/25` is a day of
the year 5. A text is shown in full or left as it is exactly if no year below 1000 or above 9999 is
read from it (`showsInFull_iff`).
-/

namespace Mailroom.Calendar

open Number Text

variable {cs rest : List Char} {d : Date} {s : String}

/-! ## The forms -/

/-- A form in which a date may be written. -/
inductive Form where
  | stamp | numeric | textual | header
  | pattern (p : Pattern)

namespace Form

/-- The date that a text shows in a form. -/
def read : Form → List Char → Option Date
  | stamp => readStamp
  | numeric => readNumeric
  | textual => readTextual
  | header => readHeader
  | pattern p => p.read

/-- The forms in the order in which they are tried. -/
def all : List Form :=
  stamp :: yearFirst.map pattern ++ numeric :: textual :: header :: furtherForms.map pattern

/-- The form is the first one that fits, and so it says what the date is. -/
def Decides (form : Form) (cs : List Char) (d : Date) : Prop :=
  ∃ before after, all = before ++ form :: after ∧ form.read cs = some d ∧
    ∀ other ∈ before, other.read cs = none

theorem readTrimmed_eq (cs : List Char) : readTrimmed cs = all.findSome? (·.read cs) := by
  have hpatterns (ps : List Pattern) :
      (ps.map pattern).findSome? (·.read cs) = ps.findSome? (·.read cs) := by
    rw [List.findSome?_map]
    rfl
  have hcons (form : Form) (forms : List Form) : (form :: forms).findSome? (·.read cs) =
      (form.read cs <|> forms.findSome? (·.read cs)) := by
    rw [List.findSome?_cons]
    cases form.read cs <;> rfl
  have happend (forms forms' : List Form) : (forms ++ forms').findSome? (·.read cs) =
      (forms.findSome? (·.read cs) <|> forms'.findSome? (·.read cs)) := by
    rw [List.findSome?_append]
    cases forms.findSome? (·.read cs) <;> rfl
  rw [readTrimmed, all, List.cons_append, hcons, happend, hpatterns, hcons, hcons, hcons, hpatterns]
  rfl

theorem exists_decides_iff : readTrimmed cs = some d ↔ ∃ form : Form, form.Decides cs d := by
  rw [readTrimmed_eq, List.findSome?_eq_some_iff]
  constructor
  · rintro ⟨before, form, after, h⟩
    exact ⟨form, before, after, h⟩
  · rintro ⟨form, before, after, h⟩
    exact ⟨before, form, after, h⟩

theorem Decides.read_eq {form : Form} (h : form.Decides cs d) : form.read cs = some d := by
  obtain ⟨-, -, -, hread, -⟩ := h
  exact hread

theorem Decides.mem {form : Form} (h : form.Decides cs d) : form ∈ all := by
  obtain ⟨before, after, hall, -⟩ := h
  rw [hall]
  exact List.mem_append_right _ List.mem_cons_self

end Form

/-! ## What a reader leaves -/

theorem takeNumber_eq_some_iff {least most n : Nat} : takeNumber least most cs = some (n, rest) ↔
    least ≤ ((cs.take most).takeWhile Char.isDigit).length ∧
      n = digitsValue 0 ((cs.take most).takeWhile Char.isDigit) ∧
      rest = cs.drop ((cs.take most).takeWhile Char.isDigit).length := by
  unfold takeNumber
  dsimp only
  split
  · exact ⟨nofun, fun h ↦ absurd h.1 (by omega)⟩
  · rw [Option.some.injEq, Prod.mk.injEq]
    exact ⟨fun h ↦ ⟨by omega, h.1.symm, h.2.symm⟩, fun h ↦ ⟨h.2.1.symm, h.2.2.symm⟩⟩

theorem trimLeft_suffix (cs : List Char) : trimLeft cs <:+ cs := List.dropWhile_suffix _

theorem takeNumber_suffix {least most n : Nat} (h : takeNumber least most cs = some (n, rest)) :
    rest <:+ cs := by
  obtain ⟨-, -, rfl⟩ := takeNumber_eq_some_iff.mp h
  exact List.drop_suffix _ _

theorem takeChar_suffix {c : Char} (h : takeChar c cs = some rest) : rest <:+ cs := by
  cases cs with
  | nil => cases h
  | cons d cs =>
    rw [takeChar] at h
    split at h
    · cases h
      exact List.suffix_cons _ _
    · cases h

theorem takeBlanks_suffix (h : takeBlanks cs = some rest) : rest <:+ cs := by
  cases cs with
  | nil => cases h
  | cons c cs =>
    rw [takeBlanks] at h
    split at h
    · cases h
      exact trimLeft_suffix _
    · cases h

theorem takeDay_suffix {n : Nat} (h : takeDay cs = some (n, rest)) : rest <:+ cs := by
  unfold takeDay at h
  dsimp only at h
  split at h
  · cases h
    exact List.drop_suffix _ _
  · cases h

theorem takeSeparator_suffix (h : takeSeparator cs = some rest) : rest <:+ cs := by
  unfold takeSeparator at h
  split at h
  iterate 3
    cases h
    exact List.suffix_cons _ _
  cases h

theorem takeWord_suffix {word : List Char} (h : takeWord word cs = some rest) : rest <:+ cs := by
  induction word generalizing cs with
  | nil =>
    cases h
    exact List.suffix_refl _
  | cons w word ih =>
    cases cs with
    | nil => cases h
    | cons c cs =>
      rw [takeWord] at h
      split at h
      · exact (ih h).trans (List.suffix_cons _ _)
      · cases h

theorem takeName_suffix {names : List String} {n k : Nat}
    (h : takeName cs n names = some (k, rest)) : rest <:+ cs := by
  induction names generalizing n with
  | nil => cases h
  | cons name names ih =>
    rw [takeName] at h
    split at h
    · rename_i hword
      cases h
      exact takeWord_suffix hword
    · exact ih h

theorem takeMonth_suffix {n : Nat} (h : takeMonth cs = some (n, rest)) : rest <:+ cs := by
  rw [takeMonth, Option.bind_eq_bind, Option.bind_eq_some_iff] at h
  obtain ⟨⟨month, left⟩, hname, h⟩ := h
  have hleft := takeName_suffix hname
  dsimp only at h
  split at h
  · rename_i hword
    cases h
    exact (takeWord_suffix hword).trans hleft
  · cases h
    exact hleft

theorem takeFraction_suffix (h : takeFraction cs = some rest) : rest <:+ cs := by
  unfold takeFraction at h
  dsimp only at h
  split at h
  · cases h
    exact List.dropWhile_suffix _
  · cases h

theorem takeWithin_suffix {least most n : Nat} (h : takeWithin least most cs = some (n, rest)) :
    rest <:+ cs := by
  rw [takeWithin, Option.bind_eq_bind, Option.bind_eq_some_iff] at h
  obtain ⟨⟨k, left⟩, hnumber, h⟩ := h
  dsimp only at h
  split at h
  · cases h
    exact (takeNumber_suffix hnumber).trans (trimLeft_suffix _)
  · cases h

theorem takeYear_suffix {y : Int} (h : takeYear cs = some (y, rest)) : rest <:+ cs := by
  have htrim := trimLeft_suffix cs
  unfold takeYear takeLongNumber at h
  split at h
  · rename_i heq
    obtain ⟨⟨n, left⟩, hnumber, h⟩ := Option.map_eq_some_iff.mp h
    cases h
    rw [heq] at htrim
    exact (takeNumber_suffix hnumber).trans ((List.suffix_cons _ _).trans htrim)
  · rename_i heq
    obtain ⟨⟨n, left⟩, hnumber, h⟩ := Option.map_eq_some_iff.mp h
    cases h
    rw [heq] at htrim
    exact (takeNumber_suffix hnumber).trans ((List.suffix_cons _ _).trans htrim)
  · obtain ⟨⟨n, left⟩, hnumber, h⟩ := Option.map_eq_some_iff.mp h
    cases h
    exact (takeNumber_suffix hnumber).trans htrim

theorem Piece.read_suffix {p : Piece} {f f' : Fields} (h : p.read f cs = some (f', rest)) :
    rest <:+ cs := by
  cases p with
  | year =>
    obtain ⟨⟨n, left⟩, hyear, h⟩ := Option.map_eq_some_iff.mp h
    cases h
    exact takeYear_suffix hyear
  | month | day | hour | minute | second =>
    obtain ⟨⟨n, left⟩, hnumber, h⟩ := Option.map_eq_some_iff.mp h
    cases h
    exact takeWithin_suffix hnumber
  | fraction =>
    simp only [read] at h
    split at h
    · obtain ⟨left, hfraction, h⟩ := Option.map_eq_some_iff.mp h
      cases h
      exact (takeFraction_suffix hfraction).trans (List.suffix_cons _ _)
    · cases h
      exact List.suffix_refl _
  | monthName =>
    obtain ⟨⟨n, left⟩, hmonth, h⟩ := Option.map_eq_some_iff.mp h
    cases h
    exact takeMonth_suffix hmonth
  | shortMonthName =>
    obtain ⟨⟨n, left⟩, hmonth, h⟩ := Option.map_eq_some_iff.mp h
    cases h
    exact takeName_suffix hmonth
  | blanks =>
    cases h
    exact trimLeft_suffix _
  | char c =>
    obtain ⟨left, hchar, h⟩ := Option.map_eq_some_iff.mp h
    cases h
    exact takeChar_suffix hchar

theorem Pattern.readFrom_suffix {p : Pattern} {f f' : Fields}
    (h : p.readFrom f cs = some (f', rest)) : rest <:+ cs := by
  induction p generalizing f cs with
  | nil =>
    cases h
    exact List.suffix_refl _
  | cons piece p ih =>
    rw [readFrom, Option.bind_eq_bind, Option.bind_eq_some_iff] at h
    obtain ⟨⟨f'', left⟩, hread, h⟩ := h
    exact (ih h).trans (Piece.read_suffix hread)

/-! ## The digits of the year -/

/-- The digits that a pattern takes for a year. -/
def leadingYear (cs : List Char) : List Char :=
  match trimLeft cs with
  | '-' :: cs | '+' :: cs => cs.takeWhile Char.isDigit
  | cs => (cs.take 4).takeWhile Char.isDigit

theorem leadingYear_isInfix (cs : List Char) : leadingYear cs <:+: cs := by
  have htrim := trimLeft_suffix cs
  unfold leadingYear
  split
  · rename_i heq
    rw [heq] at htrim
    exact (List.takeWhile_prefix _).isInfix.trans ((List.suffix_cons _ _).trans htrim).isInfix
  · rename_i heq
    rw [heq] at htrim
    exact (List.takeWhile_prefix _).isInfix.trans ((List.suffix_cons _ _).trans htrim).isInfix
  · exact ((List.takeWhile_prefix _).trans (List.take_prefix _ _)).isInfix.trans htrim.isInfix

theorem isDigits_takeWhile (cs : List Char) : IsDigits (cs.takeWhile Char.isDigit) :=
  List.all_eq_true.mp List.all_takeWhile

theorem isDigits_leadingYear (cs : List Char) : IsDigits (leadingYear cs) := by
  unfold leadingYear
  split <;> exact isDigits_takeWhile _

theorem natAbs_of_takeYear {y : Int} (h : takeYear cs = some (y, rest)) :
    y.natAbs = digitsValue 0 (leadingYear cs) := by
  unfold leadingYear
  unfold takeYear takeLongNumber at h
  generalize trimLeft cs = cs at h ⊢
  split
  · obtain ⟨⟨n, left⟩, hn, h⟩ := Option.map_eq_some_iff.mp h
    cases h
    have hdigits := (takeNumber_eq_some_iff.mp hn).2.1
    rw [List.take_length] at hdigits
    exact (Int.natAbs_neg _).trans hdigits
  · obtain ⟨⟨n, left⟩, hn, h⟩ := Option.map_eq_some_iff.mp h
    cases h
    have hdigits := (takeNumber_eq_some_iff.mp hn).2.1
    rw [List.take_length] at hdigits
    exact hdigits
  · rename_i hminus hplus
    split at h
    · exact absurd rfl (hminus _)
    · exact absurd rfl (hplus _)
    · obtain ⟨⟨n, left⟩, hn, h⟩ := Option.map_eq_some_iff.mp h
      cases h
      exact (takeNumber_eq_some_iff.mp hn).2.1

/-- The digits of the year in a text that fits a pattern. -/
def Pattern.yearDigits (p : Pattern) (cs : List Char) : List Char :=
  match readFrom (p.takeWhile (· ≠ .year)) {} cs with
  | some (_, rest) => leadingYear rest
  | none => []

/-- What follows the day of the week in a message header, if there is one. -/
def afterWeekday (cs : List Char) : Option (List Char) :=
  match takeName (trimLeft cs) 0 Date.weekdayNames with
  | some (_, cs) => takeChar ',' cs
  | none => some (trimLeft cs)

/-- The text of a message header from its year on. -/
def fromHeaderYear (cs : List Char) : Option (List Char) := do
  let (_, cs) ← takeNumber 1 2 (trimLeft (← afterWeekday cs))
  let (_, cs) ← takeShortMonth (← takeBlanks cs)
  takeBlanks cs

/-- The digits of the year in a text of a form. -/
def Form.yearDigits : Form → List Char → List Char
  | stamp, cs => cs.take 4
  | numeric, cs => cs.drop (cs.length - 4)
  | textual, cs => cs.drop (cs.length - 4)
  | header, cs => ((fromHeaderYear cs).getD []).takeWhile Char.isDigit
  | pattern p, cs => p.yearDigits cs

/-- The digits `ys` stand for the year `y` in a form. -/
def Form.Means (form : Form) (ys : List Char) (y : Int) : Prop :=
  match form with
  | stamp | numeric | textual => ys.length = 4 ∧ y = (digitsValue 0 ys : Nat)
  | header =>
    ys.length = 2 ∧ y = (digitsValue 0 ys : Nat) + (if digitsValue 0 ys < 50 then 2000 else 1900) ∨
    ys.length = 3 ∧ y = (digitsValue 0 ys : Nat) + 1900 ∨
    4 ≤ ys.length ∧ y = (digitsValue 0 ys : Nat)
  | pattern _ => y.natAbs = digitsValue 0 ys

/-- A text has the year `y` in the place and in the way that a form wants it. -/
structure Form.Dates (form : Form) (cs : List Char) (y : Int) : Prop where
  inside : form.yearDigits cs <:+: cs
  digits : IsDigits (form.yearDigits cs)
  means : form.Means (form.yearDigits cs) y

theorem Form.Dates.of_eq {form : Form} {ys : List Char} {y : Int} (h : form.yearDigits cs = ys)
    (inside : ys <:+: cs) (digits : IsDigits ys) (means : form.Means ys y) : form.Dates cs y :=
  ⟨h ▸ inside, h ▸ digits, h ▸ means⟩

/-! ## The year of each form -/

/-- Every date that is read has a given year. -/
def HasYear (y : Int) (o : Option Date) : Prop := ∀ d, o = some d → d.year = y

namespace HasYear

variable {y : Int}

theorem none : HasYear y .none := nofun

theorem ofParts? (month day : Nat) : HasYear y (Date.ofParts? y month day) := by
  intro d h
  obtain ⟨rfl, -⟩ := Date.ofParts?_eq_some_iff.mp h
  rfl

theorem bind {α : Type} {x : Option α} {f : α → Option Date} (h : ∀ a, HasYear y (f a)) :
    HasYear y (x >>= f) := by
  cases x with
  | none => exact none
  | some a => exact h a

theorem date? {f : Fields} (h : f.year = some y) : HasYear y f.date? := by
  intro d hd
  simp only [Fields.date?, h, Option.bind_eq_bind, Option.bind_eq_some_iff, Option.some.injEq,
    exists_eq_left'] at hd
  obtain ⟨month, -, day, -, d', hparts, hd⟩ := hd
  have hyear := ofParts? month day d' hparts
  split at hd
  · split at hd
    · cases hd
      exact hyear
    · cases hd
  · cases hd
    exact hyear

end HasYear

theorem dates_of_readStamp (h : readStamp cs = some d) : Form.stamp.Dates cs d.year := by
  rw [readStamp, Option.bind_eq_bind, Option.bind_eq_some_iff] at h
  obtain ⟨⟨year, rest⟩, hnumber, h⟩ := h
  have hyear : d.year = year := by
    refine (?_ : HasYear year _) d h
    repeat' first
      | exact HasYear.none
      | exact HasYear.ofParts? _ _
      | refine HasYear.bind fun _ ↦ ?_
      | split
  obtain ⟨hlength, hvalue, -⟩ := takeNumber_eq_some_iff.mp hnumber
  have hinitial : (cs.take 4).takeWhile Char.isDigit <+: cs.take 4 := List.takeWhile_prefix _
  have hle : (cs.take 4).length ≤ 4 := List.length_take_le _ _
  have hdigits : (cs.take 4).takeWhile Char.isDigit = cs.take 4 :=
    hinitial.eq_of_length_le (by omega)
  rw [hdigits] at hlength hvalue
  have hys : Form.stamp.yearDigits cs = cs.take 4 := rfl
  refine .of_eq hys (List.take_prefix _ _).isInfix (hdigits ▸ isDigits_takeWhile _) ?_
  exact ⟨by omega, by rw [hyear, hvalue]⟩

theorem digits_of_readYear {y : Nat} (h : readYear cs = some y) :
    cs.length = 4 ∧ IsDigits cs ∧ y = digitsValue 0 cs := by
  unfold readYear at h
  split at h
  · rename_i hlength
    have hdigits := isDigits_of_readNat? h
    rw [readNat?_of_isDigits hdigits (List.ne_nil_of_length_pos (by omega))] at h
    exact ⟨hlength, hdigits, (Option.some.inj h).symm⟩
  · cases h

/-- A year of four digits at the end of a text. -/
theorem dates_of_readYear {form : Form} (hform : form = .numeric ∨ form = .textual)
    (hrest : rest <:+ cs) {y : Nat} (h : readYear rest = some y) : form.Dates cs y := by
  obtain ⟨hlength, hdigits, rfl⟩ := digits_of_readYear h
  have hdrop : cs.drop (cs.length - 4) = rest := by
    rw [← hlength]
    exact (List.suffix_iff_eq_drop.mp hrest).symm
  rcases hform with rfl | rfl
  iterate 2 exact .of_eq hdrop hrest.isInfix hdigits ⟨hlength, rfl⟩

theorem dates_of_readNumeric (h : readNumeric cs = some d) : Form.numeric.Dates cs d.year := by
  simp only [readNumeric, Option.bind_eq_bind, Option.bind_eq_some_iff] at h
  obtain ⟨⟨day, r₁⟩, h₁, r₂, h₂, ⟨month, r₃⟩, h₃, r₄, h₄, year, hyear, h⟩ := h
  rw [HasYear.ofParts? _ _ d h]
  refine dates_of_readYear (.inl rfl) ?_ hyear
  exact (takeSeparator_suffix h₄).trans <| (takeDay_suffix h₃).trans <|
    (takeSeparator_suffix h₂).trans (takeDay_suffix h₁)

/-- A text without a point in front. -/
def behindPoint : List Char → List Char
  | '.' :: cs => cs
  | cs => cs

theorem behindPoint_suffix (cs : List Char) : behindPoint cs <:+ cs := by
  unfold behindPoint
  split
  · exact List.suffix_cons _ _
  · exact List.suffix_refl _

theorem dates_of_readTextual (h : readTextual cs = some d) : Form.textual.Dates cs d.year := by
  simp only [readTextual, Option.bind_eq_bind, Option.bind_eq_some_iff] at h
  obtain ⟨⟨day, r₁⟩, h₁, r₂, h₂, r₃, h₃, year, hyear, month, -, h⟩ := h
  rw [HasYear.ofParts? _ _ d h]
  refine dates_of_readYear (.inr rfl) ?_ hyear
  exact (takeBlanks_suffix h₃).trans <| (List.dropWhile_suffix _).trans <|
    (takeBlanks_suffix h₂).trans <| (behindPoint_suffix r₁).trans (takeDay_suffix h₁)

theorem means_of_takeHeaderYear {y : Int} (h : takeHeaderYear cs = some (y, rest)) :
    Form.header.Means (cs.takeWhile Char.isDigit) y := by
  rw [takeHeaderYear, Option.bind_eq_bind, Option.bind_eq_some_iff] at h
  obtain ⟨⟨n, left⟩, hnumber, h⟩ := h
  obtain ⟨hlength, hn, hleft⟩ := takeNumber_eq_some_iff.mp hnumber
  rw [List.take_length] at hlength hn hleft
  have hle := (List.takeWhile_prefix Char.isDigit : cs.takeWhile Char.isDigit <+: cs).length_le
  have hwidth : cs.length - left.length = (cs.takeWhile Char.isDigit).length := by
    rw [hleft, List.length_drop]
    omega
  subst hn
  rw [Option.pure_def, Option.some.injEq, Prod.mk.injEq] at h
  obtain ⟨rfl, -⟩ := h
  dsimp only [Form.Means]
  rw [hwidth]
  by_cases htwo : (cs.takeWhile Char.isDigit).length = 2
  · refine .inl ⟨htwo, ?_⟩
    rw [if_pos htwo]
    split <;> rfl
  · rw [if_neg htwo]
    by_cases hthree : (cs.takeWhile Char.isDigit).length = 3
    · exact .inr (.inl ⟨hthree, congrArg Nat.cast (if_pos hthree)⟩)
    · exact .inr (.inr ⟨by omega, congrArg Nat.cast (if_neg hthree)⟩)

theorem afterWeekday_suffix (h : afterWeekday cs = some rest) : rest <:+ cs := by
  have htrim := trimLeft_suffix cs
  unfold afterWeekday at h
  split at h
  · rename_i hname
    exact (takeChar_suffix h).trans ((takeName_suffix hname).trans htrim)
  · cases h
    exact htrim

theorem fromHeaderYear_suffix (h : fromHeaderYear cs = some rest) : rest <:+ cs := by
  simp only [fromHeaderYear, Option.bind_eq_bind, Option.bind_eq_some_iff] at h
  obtain ⟨r, h₀, ⟨day, r₁⟩, h₁, r₂, h₂, ⟨month, r₃⟩, h₃, h₄⟩ := h
  exact (takeBlanks_suffix h₄).trans <| (takeName_suffix h₃).trans <|
    (takeBlanks_suffix h₂).trans <| (takeNumber_suffix h₁).trans <|
    (trimLeft_suffix _).trans (afterWeekday_suffix h₀)

theorem dates_of_takeHeaderYear {y : Int} {ys : List Char} (h : fromHeaderYear cs = some ys)
    (hyear : takeHeaderYear ys = some (y, rest)) : Form.header.Dates cs y := by
  have hys : Form.header.yearDigits cs = ys.takeWhile Char.isDigit := by
    rw [Form.yearDigits, h]
    rfl
  refine .of_eq hys ?_ (isDigits_takeWhile _) (means_of_takeHeaderYear hyear)
  exact (List.takeWhile_prefix _).isInfix.trans (fromHeaderYear_suffix h).isInfix

/-- What follows the minutes in a message header says nothing about the year. -/
theorem hasYear_afterMinute {y : Int} {f : Fields} (h : f.year = some y) (cs : List Char) :
    HasYear y (do
      let cs ← match takeChar ':' (trimLeft cs) with
        | some cs => (takeTwo 60 cs).map (·.2)
        | none => some cs
      let cs ← takeHeaderZone (← takeBlanks cs)
      if onlyComments cs.length cs then f.date? else none) := by
  dsimp only
  repeat' first
    | exact HasYear.none
    | exact HasYear.date? h
    | refine HasYear.bind fun _ ↦ ?_
    | split

theorem dates_of_readHeader (h : readHeader cs = some d) : Form.header.Dates cs d.year := by
  unfold readHeader at h
  dsimp only at h
  cases hname : takeName (trimLeft cs) 0 Date.weekdayNames with
  | none =>
    rw [hname] at h
    simp only [Option.bind_eq_bind, Option.bind_some, Option.bind_eq_some_iff] at h
    obtain ⟨⟨day, r₁⟩, h₁, r₂, h₂, ⟨month, r₃⟩, h₃, ys, hys, ⟨year, r₄⟩, hyear, h⟩ := h
    have hfrom : fromHeaderYear cs = some ys := by
      simp [fromHeaderYear, afterWeekday, hname, h₁, h₂, h₃, hys]
    obtain ⟨r₅, -, r₆, -, r₇, -, r₈, -, h⟩ := h
    rw [hasYear_afterMinute rfl _ d h]
    exact dates_of_takeHeaderYear hfrom hyear
  | some r =>
    rw [hname] at h
    simp only [Option.bind_eq_bind, Option.bind_eq_some_iff, Option.map_eq_some_iff] at h
    obtain ⟨-, ⟨r₀, h₀, rfl⟩, ⟨day, r₁⟩, h₁, r₂, h₂, ⟨month, r₃⟩, h₃, ys, hys, ⟨year, r₄⟩, hyear,
      h⟩ := h
    have hfrom : fromHeaderYear cs = some ys := by
      simp [fromHeaderYear, afterWeekday, hname, h₀, h₁, h₂, h₃, hys]
    obtain ⟨r₅, -, r₆, -, r₇, -, r₈, -, h⟩ := h
    rw [hasYear_afterMinute rfl _ d h]
    exact dates_of_takeHeaderYear hfrom hyear

/-! ## The year of a pattern -/

theorem Piece.read_year_eq {p : Piece} (hp : p ≠ .year) {f f' : Fields}
    (h : p.read f cs = some (f', rest)) : f'.year = f.year := by
  cases p with
  | year => exact absurd rfl hp
  | month | day | hour | minute | second | monthName | shortMonthName | char =>
    obtain ⟨r, -, h⟩ := Option.map_eq_some_iff.mp h
    cases h
    rfl
  | fraction =>
    simp only [read] at h
    split at h
    · obtain ⟨r, -, h⟩ := Option.map_eq_some_iff.mp h
      cases h
      rfl
    · cases h
      rfl
  | blanks =>
    cases h
    rfl

namespace Pattern

theorem readFrom_year_eq {p : Pattern} (hp : .year ∉ p) {f f' : Fields}
    (h : p.readFrom f cs = some (f', rest)) : f'.year = f.year := by
  induction p generalizing f cs with
  | nil =>
    cases h
    rfl
  | cons piece p ih =>
    rw [readFrom, Option.bind_eq_bind, Option.bind_eq_some_iff] at h
    obtain ⟨⟨f'', left⟩, hread, h⟩ := h
    rw [ih (List.not_mem_of_not_mem_cons hp) h,
      Piece.read_year_eq (List.ne_of_not_mem_cons hp).symm hread]

/-- Each pattern has one year. -/
theorem split_year : ∀ p ∈ yearFirst ++ furtherForms,
    p = p.takeWhile (· ≠ .year) ++ .year :: (p.dropWhile (· ≠ .year)).tail ∧
      .year ∉ (p.dropWhile (· ≠ .year)).tail := by
  decide

theorem dates_of_read {p : Pattern} (hp : p ∈ yearFirst ++ furtherForms)
    (h : p.read cs = some d) : (Form.pattern p).Dates cs d.year := by
  obtain ⟨hsplit, hafter⟩ := split_year p hp
  obtain ⟨f, hread, hdate⟩ : ∃ f, p.readFrom {} cs = some (f, []) ∧ f.date? = some d := by
    unfold read at h
    split at h
    · exact ⟨_, ‹_›, h⟩
    · cases h
  rw [hsplit, readFrom_append, Option.bind_eq_some_iff] at hread
  obtain ⟨⟨f₁, rest⟩, hbefore, hread⟩ := hread
  rw [readFrom, Option.bind_eq_bind, Option.bind_eq_some_iff] at hread
  obtain ⟨⟨f₂, left⟩, hyear, hread⟩ := hread
  obtain ⟨⟨y, r⟩, htake, heq⟩ := Option.map_eq_some_iff.mp hyear
  cases heq
  have hfields : f.year = some y := readFrom_year_eq hafter hread
  have hys : (Form.pattern p).yearDigits cs = leadingYear rest := by
    rw [Form.yearDigits, yearDigits, hbefore]
  rw [HasYear.date? hfields d hdate]
  exact .of_eq hys ((leadingYear_isInfix rest).trans (readFrom_suffix hbefore).isInfix)
    (isDigits_leadingYear rest) (natAbs_of_takeYear htake)

end Pattern

/-- Whichever form decides, the year stands in the text as the form wants it. -/
theorem Form.Decides.dates {form : Form} (h : form.Decides cs d) : form.Dates cs d.year := by
  have hmem := h.mem
  have hread := h.read_eq
  cases form with
  | stamp => exact dates_of_readStamp hread
  | numeric => exact dates_of_readNumeric hread
  | textual => exact dates_of_readTextual hread
  | header => exact dates_of_readHeader hread
  | pattern p =>
    refine Pattern.dates_of_read ?_ hread
    simpa [Form.all] using hmem

/-! ## Dates in full -/

/-- Two digits, the English name of a month and four digits, with blanks between them. -/
def InFull (s : String) : Prop :=
  ∃ ds name ys, IsDigits ds ∧ ds.length = 2 ∧ name ∈ Date.monthNames ∧ IsDigits ys ∧
    ys.length = 4 ∧ s.toList = ds ++ ' ' :: (name.toList ++ ' ' :: ys)

/-- A number of fewer than four digits is taken for the year itself. -/
def Form.TakesShort (form : Form) (cs : List Char) (d : Date) : Prop :=
  (form.yearDigits cs).length < 4 ∧ d.year.natAbs = digitsValue 0 (form.yearDigits cs)

/-- A text is shown in full or left as it is, and no short number in it is taken for the year. -/
structure ShowsInFull (s : String) : Prop where
  text : showDate (.str s) = s ∨ InFull (showDate (.str s))
  year (form : Form) (d : Date) :
    form.Decides (trim s).toList d → ¬ form.TakesShort (trim s).toList d

theorem mem_monthNames (hd : d.IsValid) : Date.monthName d.month ∈ Date.monthNames := by
  have hfirst := hd.one_le_month
  have hlast := hd.month_le
  have hlength : Date.monthNames.length = 12 := rfl
  rw [Date.monthName, List.getD_eq_getElem?_getD, List.getElem?_eq_getElem (by omega)]
  exact List.getElem_mem _

/-- A year is shown with four digits and no sign. -/
theorem length_intText_iff {y : Int} :
    IsDigits (intText y) ∧ (intText y).length = 4 ↔ 1000 ≤ y ∧ y ≤ 9999 := by
  have hthree := length_natText_le_iff (n := y.natAbs) (show 0 < 3 by decide)
  have hfour := length_natText_le_iff (n := y.natAbs) (show 0 < 4 by decide)
  unfold intText
  split_ifs with hneg
  · exact ⟨fun h ↦ absurd (isDigits_cons.mp h.1).1 (by decide), fun h ↦ by omega⟩
  · exact ⟨fun h ↦ by omega, fun h ↦ ⟨isDigits_natText _, by omega⟩⟩

theorem inFull_shown_iff (hd : d.IsValid) : InFull d.shown ↔ 1000 ≤ d.year ∧ d.year ≤ 9999 := by
  have hday := length_zeroPadded Nat.two_pos (hd.day_le_31.trans_lt (by decide))
  rw [InFull, toList_shown, shownUpTo, ← length_intText_iff]
  constructor
  · rintro ⟨ds, name, ys, -, hds, hname, hys, hlength, heq⟩
    obtain ⟨-, heq⟩ := List.append_inj heq (hday.trans hds.symm)
    have hnames : (Date.monthName d.month).toList.length = name.toList.length := by
      rw [length_monthNames _ (mem_monthNames hd), length_monthNames _ hname]
    obtain ⟨-, heq⟩ := List.append_inj (List.cons.inj heq).2 hnames
    obtain ⟨-, rfl⟩ := List.cons.inj heq
    exact ⟨hys, hlength⟩
  · rintro ⟨hys, hlength⟩
    exact ⟨_, _, _, isDigits_zeroPadded _ _, hday, mem_monthNames hd, hys, hlength, rfl⟩

theorem showDate_of_none (h : readDate s = none) : showDate (.str s) = s := by
  rw [showDate, dateOf, h]
  rfl

theorem showDate_of_some (h : readDate s = some d) : showDate (.str s) = d.shown := by
  rw [showDate, dateOf, h]

/-- A date that is shown otherwise than in full is not what the text was. -/
theorem shown_ne (h : readDate s = some d) (hyear : ¬ (1000 ≤ d.year ∧ d.year ≤ 9999)) :
    d.shown ≠ s := by
  rintro rfl
  rw [readDate_shown_eq_none (IsReal.readDate _ d h) hyear] at h
  cases h

theorem showsInFull_iff_year :
    ShowsInFull s ↔ ∀ d, readDate s = some d → 1000 ≤ d.year ∧ d.year ≤ 9999 := by
  constructor
  · intro h d hd
    by_contra hyear
    have htext := h.text
    rw [showDate_of_some hd] at htext
    rcases htext with heq | hfull
    · exact shown_ne hd hyear heq
    · exact hyear ((inFull_shown_iff (IsReal.readDate s d hd)).mp hfull)
  · intro h
    refine ⟨?_, ?_⟩
    · cases hd : readDate s with
      | none => exact .inl (showDate_of_none hd)
      | some d =>
        rw [showDate_of_some hd]
        exact .inr ((inFull_shown_iff (IsReal.readDate s d hd)).mpr (h d hd))
    · rintro form d hform ⟨hshort, hvalue⟩
      have hlarge := h d (by rw [readDate_eq]; exact Form.exists_decides_iff.mpr ⟨form, hform⟩)
      have hlt := digitsValue_lt hform.dates.digits 0
      have hpow := Nat.pow_le_pow_right (show 0 < 10 by decide) (Nat.le_of_lt_succ hshort)
      omega

/-- A short number is taken for the year exactly by the patterns. -/
theorem Form.Decides.takesShort_iff {form : Form} (h : form.Decides cs d) :
    form.TakesShort cs d ↔ (∃ p, form = .pattern p) ∧ (form.yearDigits cs).length < 4 := by
  have hmeans := h.dates.means
  unfold Form.TakesShort
  generalize form.yearDigits cs = ys at hmeans
  cases form with
  | stamp | numeric | textual =>
    obtain ⟨hlength, -⟩ := hmeans
    exact ⟨fun h ↦ by omega, fun h ↦ by omega⟩
  | header =>
    refine ⟨fun ⟨hshort, hyear⟩ ↦ ?_, fun ⟨⟨p, hp⟩, _⟩ ↦ nomatch hp⟩
    rcases hmeans with ⟨-, hcentury⟩ | ⟨-, hcentury⟩ | ⟨hlong, -⟩
    · split at hcentury <;> omega
    · omega
    · omega
  | pattern p => exact ⟨fun h ↦ ⟨⟨p, rfl⟩, h.1⟩, fun h ↦ ⟨h.2, hmeans⟩⟩

/-- A text is shown in full or left as it is, and no short number in it is taken for the year,
exactly if it shows no year outside of four digits. Whichever form decides has the year among the
characters of the text, and only a pattern takes fewer than four digits for the year itself. -/
theorem showsInFull_iff (s : String) :
    (ShowsInFull s ↔ ∀ d, readDate s = some d → 1000 ≤ d.year ∧ d.year ≤ 9999) ∧
    ∀ form d, Form.Decides form (trim s).toList d →
      form.Dates (trim s).toList d.year ∧
        (form.TakesShort (trim s).toList d ↔
          (∃ p, form = .pattern p) ∧ (form.yearDigits (trim s).toList).length < 4) :=
  ⟨showsInFull_iff_year, fun _ _ h ↦ ⟨h.dates, h.takesShort_iff⟩⟩

/-- A date of three short numbers is not left as it is: the first number is taken for the year. -/
theorem showDate_shortYear :
    showDate (.str "05/07/25") = "25 Jul 5" ∧ ¬ ShowsInFull "05/07/25" := by
  have hread : readDate "05/07/25" = some ⟨5, 7, 25⟩ := by decide +kernel
  refine ⟨by decide +kernel, fun h ↦ ?_⟩
  exact absurd (showsInFull_iff_year.mp h _ hread).1 (by decide)

end Mailroom.Calendar
