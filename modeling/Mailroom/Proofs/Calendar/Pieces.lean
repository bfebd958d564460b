import Mailroom.Calendar.Reading
import Mailroom.Proofs.Number.Digits
import Mailroom.Proofs.Text.Trimming
import Mathlib.Algebra.Ring.Nat
import Mathlib.Order.Nat

/-!
# Reading pieces of a date

What each piece of a date takes from a text that is known as far as that piece goes: digits and what
ends them, blanks and what ends them, and one given character.
-/

namespace Mailroom

namespace Calendar

open Number

variable {ds cs rest : List Char} {c : Char} {least most : Nat}

/-! ## One step of a reader -/

theorem bind_of_some {α β : Type} {x : Option α} {f : α → Option β} {a : α} {o : Option β}
    (hx : x = some a) (hf : f a = o) : (x >>= f) = o := by
  rw [hx]
  exact hf

theorem bind_of_none {α β : Type} {x : Option α} {f : α → Option β} (hx : x = none) :
    (x >>= f) = none := by
  rw [hx]
  rfl

/-! ## Numbers -/

/-- A number takes as many digits as it may. -/
theorem takeNumber_append (hds : IsDigits ds) (hrest : Ends rest) (least most : Nat) :
    takeNumber least most (ds ++ rest) =
      if min most ds.length < least then none
      else some (digitsValue 0 (ds.take most), ds.drop most ++ rest) := by
  have htake : ((ds ++ rest).take most).takeWhile Char.isDigit = ds.take most := by
    rw [List.take_append]
    refine takeWhile_digits (hds.take most) ?_
    cases rest with
    | nil => simp
    | cons c rest =>
      cases most - ds.length with
      | zero => exact ends_nil
      | succ k => exact ends_cons.mpr (ends_cons.mp hrest)
  have hdrop : (ds ++ rest).drop (min most ds.length) = ds.drop most ++ rest := by
    rcases Nat.le_total most ds.length with hle | hle
    · rw [Nat.min_eq_left hle, List.drop_append_of_le_length hle]
    · rw [Nat.min_eq_right hle, List.drop_left, List.drop_eq_nil_of_le hle, List.nil_append]
  rw [takeNumber, htake, List.length_take, hdrop]

theorem takeNumber_of_length (hds : IsDigits ds) (hrest : Ends rest) (hleast : least ≤ ds.length)
    (hmost : ds.length ≤ most) :
    takeNumber least most (ds ++ rest) = some (digitsValue 0 ds, rest) := by
  rw [takeNumber_append hds hrest, if_neg (by omega), List.take_of_length_le hmost,
    List.drop_eq_nil_of_le hmost, List.nil_append]

theorem takeNumber_of_short (hds : IsDigits ds) (hrest : Ends rest) (h : ds.length < least) :
    takeNumber least most (ds ++ rest) = none := by
  rw [takeNumber_append hds hrest, if_pos (by omega)]

theorem takeNumber_of_ends (hcs : Ends cs) (h : 0 < least) : takeNumber least most cs = none :=
  takeNumber_of_short isDigits_nil hcs h

theorem takeNumber_zeroPadded {n width : Nat} (h : n < 10 ^ width) (hwidth : 0 < width)
    (hrest : Ends rest) :
    takeNumber width width (zeroPadded width n ++ rest) = some (n, rest) := by
  have hlength := length_zeroPadded hwidth h
  rw [takeNumber_of_length (isDigits_zeroPadded _ _) hrest hlength.ge hlength.le,
    digitsValue_zeroPadded]

theorem takeTwo_zeroPadded {n bound : Nat} (h : n ≤ bound) (hbound : bound < 100)
    (hrest : Ends rest) : takeTwo bound (zeroPadded 2 n ++ rest) = some (n, rest) := by
  rw [takeTwo, takeNumber_zeroPadded (by omega) Nat.two_pos hrest]
  exact if_pos h

theorem takeFraction_append (hds : IsDigits ds) (hne : ds ≠ []) (hrest : Ends rest) :
    takeFraction (ds ++ rest) = some rest := by
  have hlength : 0 < ds.length := List.length_pos_iff.mpr hne
  rw [takeFraction, dropWhile_digits hds hrest]
  exact if_pos (by simp [hlength])

/-- A text that begins with a digit has no blanks in front. -/
theorem notBlank_digits (hds : IsDigits ds) (hne : ds ≠ []) (rest : List Char) :
    Text.NotBlank (ds ++ rest) := by
  obtain ⟨d, ds, rfl⟩ := List.exists_cons_of_ne_nil hne
  exact Text.notBlank_cons.mpr (Text.isBlank_of_isDigit (isDigits_cons.mp hds).1)

theorem trimLeft_digits (hds : IsDigits ds) (hne : ds ≠ []) (rest : List Char) :
    Text.trimLeft (ds ++ rest) = ds ++ rest :=
  Text.trimLeft_of_notBlank (notBlank_digits hds hne rest)

theorem takeYear_append (hds : IsDigits ds) (hne : ds ≠ []) (hrest : Ends rest) :
    takeYear (ds ++ rest) =
      some (((digitsValue 0 (ds.take 4) : Nat) : Int), ds.drop 4 ++ rest) := by
  have hlength : 1 ≤ ds.length := List.length_pos_iff.mpr hne
  have hsign (c : Char) (hc : c.isDigit = false) : ∀ cs, ds ++ rest ≠ c :: cs := by
    intro cs heq
    obtain ⟨d, ds, rfl⟩ := List.exists_cons_of_ne_nil hne
    obtain ⟨rfl, -⟩ := List.cons.inj heq
    rw [(isDigits_cons.mp hds).1] at hc
    cases hc
  rw [takeYear, trimLeft_digits hds hne]
  split
  · exact absurd ‹_› (hsign '-' rfl _)
  · exact absurd ‹_› (hsign '+' rfl _)
  · rw [takeNumber_append hds hrest, if_neg (by omega)]
    rfl

/-- Behind a sign a year takes all digits. -/
theorem takeYear_minus (hds : IsDigits ds) (hne : ds ≠ []) (hrest : Ends rest) :
    takeYear ('-' :: (ds ++ rest)) = some (-((digitsValue 0 ds : Nat) : Int), rest) := by
  have hlength : 1 ≤ ds.length := List.length_pos_iff.mpr hne
  have htrim : Text.trimLeft ('-' :: (ds ++ rest)) = '-' :: (ds ++ rest) :=
    Text.trimLeft_of_notBlank (Text.notBlank_cons.mpr (by decide))
  have hnumber : takeLongNumber (ds ++ rest) = some (digitsValue 0 ds, rest) :=
    takeNumber_of_length hds hrest hlength (by simp)
  rw [takeYear, htrim]
  exact congrArg (Option.map fun r ↦ (-(r.1 : Int), r.2)) hnumber

theorem takeYear_of_ends (hcs : Ends cs) (hblank : Text.NotBlank cs) (hsign : cs.head? ≠ some '-')
    (hsign' : cs.head? ≠ some '+') : takeYear cs = none := by
  rw [takeYear, Text.trimLeft_of_notBlank hblank]
  split
  · simp at hsign
  · simp at hsign'
  · rw [takeNumber_of_ends hcs Nat.one_pos]
    rfl

theorem takeWithin_append (hds : IsDigits ds) (hne : ds ≠ []) (hrest : Ends rest) :
    takeWithin least most (ds ++ rest) =
      if least ≤ digitsValue 0 (ds.take 2) ∧ digitsValue 0 (ds.take 2) ≤ most then
        some (digitsValue 0 (ds.take 2), ds.drop 2 ++ rest)
      else none := by
  have hlength : 1 ≤ ds.length := List.length_pos_iff.mpr hne
  rw [takeWithin, trimLeft_digits hds hne, takeNumber_append hds hrest, if_neg (by omega)]
  rfl

theorem takeWithin_of_ends (hcs : Ends cs) (hblank : Text.NotBlank cs) :
    takeWithin least most cs = none := by
  rw [takeWithin, Text.trimLeft_of_notBlank hblank, takeNumber_of_ends hcs Nat.one_pos]
  rfl

theorem takeDay_append (hds : IsDigits ds) (hrest : Ends rest) :
    takeDay (ds ++ rest) =
      if 1 ≤ ds.length ∧ ds.length ≤ 2 then some (digitsValue 0 ds, rest) else none := by
  rw [takeDay, takeWhile_digits hds hrest, List.drop_left]

theorem takeDay_of_ends (hcs : Ends cs) : takeDay cs = none :=
  takeDay_append isDigits_nil hcs

/-! ## Characters and blanks -/

@[simp] theorem takeChar_self (c : Char) (cs : List Char) : takeChar c (c :: cs) = some cs :=
  if_pos rfl

theorem takeChar_of_ne (h : cs.head? ≠ some c) : takeChar c cs = none := by
  cases cs with
  | nil => rfl
  | cons d cs => exact if_neg fun heq ↦ h (congrArg some heq.symm)

/-- A number that goes on with another one is not followed by a character. -/
theorem head?_digits_append_ne (hds : IsDigits ds) (hc : c.isDigit = false)
    (hrest : rest.head? ≠ some c) : (ds ++ rest).head? ≠ some c := by
  cases ds with
  | nil => exact hrest
  | cons d ds =>
    intro h
    obtain rfl : d = c := Option.some.inj h
    rw [(isDigits_cons.mp hds).1] at hc
    cases hc

theorem takeChar_digits (hds : IsDigits ds) (hne : ds ≠ []) (hc : c.isDigit = false)
    (rest : List Char) : takeChar c (ds ++ rest) = none := by
  obtain ⟨d, ds, rfl⟩ := List.exists_cons_of_ne_nil hne
  refine takeChar_of_ne fun h ↦ ?_
  obtain rfl : d = c := Option.some.inj h
  rw [(isDigits_cons.mp hds).1] at hc
  cases hc

theorem takeBlanks_append {blanks : List Char} (hblanks : Text.AreBlanks blanks) (hne : blanks ≠ [])
    (hrest : Text.NotBlank rest) : takeBlanks (blanks ++ rest) = some rest := by
  obtain ⟨b, bs, rfl⟩ := List.exists_cons_of_ne_nil hne
  rw [List.cons_append, takeBlanks, if_pos (hblanks b List.mem_cons_self), ← List.cons_append,
    Text.trimLeft_append hblanks hrest]

theorem takeBlanks_of_notBlank (h : Text.NotBlank cs) : takeBlanks cs = none := by
  cases cs with
  | nil => rfl
  | cons c cs => rw [takeBlanks, Text.notBlank_cons.mp h, if_neg Bool.false_ne_true]

/-! ## Words -/

theorem takeWord_append {word ws : List Char} (h : ws.length = word.length) (rest : List Char) :
    takeWord ws (word ++ rest) =
      if ws.map Char.toLower = word.map Char.toLower then some rest else none := by
  induction ws generalizing word with
  | nil =>
    obtain rfl := List.length_eq_zero_iff.mp h.symm
    rfl
  | cons w ws ih =>
    obtain ⟨c, word, rfl⟩ := List.exists_cons_of_length_eq_add_one h.symm
    rw [List.cons_append, takeWord, ih (Nat.succ.inj h)]
    simp only [List.map_cons, List.cons.injEq]
    by_cases hw : w.toLower = c.toLower
    · simp [hw]
    · simp [hw]

/-- Of names that all have the length of a word the one is found that is the word. -/
theorem takeName_append {word : List Char} {names : List String}
    (h : ∀ name ∈ names, name.toList.length = word.length) (n : Nat) (rest : List Char) :
    takeName (word ++ rest) n names =
      (names.findIdx? fun name ↦ name.toList.map Char.toLower = word.map Char.toLower).map
        fun i ↦ (n + i, rest) := by
  induction names generalizing n with
  | nil => rfl
  | cons name names ih =>
    rw [takeName, takeWord_append (h name List.mem_cons_self), List.findIdx?_cons]
    by_cases heq : name.toList.map Char.toLower = word.map Char.toLower
    · simp [heq]
    · have hshift : (fun i ↦ (n + 1 + i, rest)) = fun i ↦ (n + (i + 1), rest) := by
        funext i
        rw [Nat.add_assoc, Nat.add_comm 1]
      rw [if_neg heq, ih fun name hname ↦ h name (List.mem_cons_of_mem _ hname)]
      simp [heq, Function.comp_def, hshift]

/-- No name is found where none of them has the first letter. -/
theorem takeName_of_head {names : List String}
    (h : ∀ name ∈ names, ∃ d ds, name.toList = d :: ds ∧ d.toLower ≠ c.toLower) (n : Nat) :
    takeName (c :: cs) n names = none := by
  induction names generalizing n with
  | nil => rfl
  | cons name names ih =>
    obtain ⟨d, ds, hname, hd⟩ := h name List.mem_cons_self
    rw [takeName, hname, takeWord, if_neg hd]
    exact ih (fun name hname ↦ h name (List.mem_cons_of_mem _ hname)) _

/-! ## Patterns -/

namespace Piece

/-- How many digits a number takes at most, unless a sign stands before it. -/
def width : Piece → Nat
  | .year => 4
  | _ => 2

theorem read_char_self (c : Char) (f : Fields) (cs : List Char) :
    (char c).read f (c :: cs) = some (f, cs) := by
  rw [read, takeChar_self]
  rfl

theorem read_year_append (hds : IsDigits ds) (hne : ds ≠ []) (hlength : ds.length ≤ 4)
    (hrest : Ends rest) (f : Fields) :
    year.read f (ds ++ rest) = some ({ f with year := some (digitsValue 0 ds : Nat) }, rest) := by
  rw [read, takeYear_append hds hne hrest, List.take_of_length_le hlength,
    List.drop_eq_nil_of_le hlength]
  rfl

theorem read_blanks_append {blanks : List Char} (hblanks : Text.AreBlanks blanks)
    (hrest : Text.NotBlank rest) (f : Fields) :
    Piece.blanks.read f (blanks ++ rest) = some (f, rest) := by
  rw [read, Text.trimLeft_append hblanks hrest]

end Piece

namespace Pattern

variable {p : Piece} {ps : Pattern} {f : Fields}

theorem readFrom_append (ps qs : Pattern) (f : Fields) (cs : List Char) :
    readFrom (ps ++ qs) f cs = (ps.readFrom f cs).bind fun r ↦ qs.readFrom r.1 r.2 := by
  induction ps generalizing f cs with
  | nil => rfl
  | cons p ps ih =>
    rw [List.cons_append, readFrom, readFrom]
    cases p.read f cs with
    | none => rfl
    | some r => exact ih r.1 r.2

theorem read_of_readFrom (h : ps.readFrom {} cs = some (f, [])) : ps.read cs = f.date? := by
  rw [read, h]

theorem read_of_none (h : ps.readFrom {} cs = none) : ps.read cs = none := by
  rw [read, h]

/-- A pattern does not fit if something is left. -/
theorem read_of_rest (h : ps.readFrom {} cs = some (f, rest)) (hrest : rest ≠ []) :
    ps.read cs = none := by
  rw [read, h]
  split
  · rename_i heq
    cases heq
    exact absurd rfl hrest
  · rfl

theorem readFrom_of_char
    (h : ∀ f' r, p.read f cs = some (f', r) → r.head? ≠ some c) :
    readFrom (p :: .char c :: ps) f cs = none := by
  rw [readFrom]
  cases hp : p.read f cs with
  | none => rfl
  | some r =>
    refine bind_of_some rfl (bind_of_none ?_)
    rw [Piece.read, takeChar_of_ne (h r.1 r.2 hp)]
    rfl

/-- A number leaves the end of its digits. -/
theorem exists_drop_of_read (hp : p ∈ [.year, .month, .day]) (hds : IsDigits ds) (hne : ds ≠ [])
    (hrest : Ends rest) {f' : Fields} {r : List Char} (h : p.read f (ds ++ rest) = some (f', r)) :
    ∃ k ≤ p.width, r = ds.drop k ++ rest := by
  simp only [List.mem_cons, List.not_mem_nil, or_false] at hp
  rcases hp with rfl | rfl | rfl
  · rw [Piece.read, takeYear_append hds hne hrest] at h
    cases h
    exact ⟨4, le_rfl, rfl⟩
  all_goals
    rw [Piece.read, takeWithin_append hds hne hrest] at h
    split at h
    · cases h
      exact ⟨2, le_rfl, rfl⟩
    · cases h

/-- A pattern of a number and a character needs a text that has the character behind the number. -/
theorem readFrom_number_char (hp : p ∈ [.year, .month, .day]) (hds : IsDigits ds) (hne : ds ≠ [])
    (hrest : Ends rest) (hc : c.isDigit = false) (h : rest.head? ≠ some c) :
    readFrom (p :: .char c :: ps) f (ds ++ rest) = none := by
  refine readFrom_of_char fun f' r hread ↦ ?_
  obtain ⟨k, -, rfl⟩ := exists_drop_of_read hp hds hne hrest hread
  exact head?_digits_append_ne (hds.drop k) hc h

@[inherit_doc readFrom_number_char]
theorem read_number_char (hp : p ∈ [.year, .month, .day]) (hds : IsDigits ds) (hne : ds ≠ [])
    (hrest : Ends rest) (hc : c.isDigit = false) (h : rest.head? ≠ some c) :
    read (p :: .char c :: ps) (ds ++ rest) = none :=
  read_of_none (readFrom_number_char hp hds hne hrest hc h)

theorem read_of_ends (hp : p ∈ [.year, .month, .day]) (hcs : Ends cs) (hblank : Text.NotBlank cs)
    (hminus : cs.head? ≠ some '-') (hplus : cs.head? ≠ some '+') : p.read f cs = none := by
  simp only [List.mem_cons, List.not_mem_nil, or_false] at hp
  rcases hp with rfl | rfl | rfl
  · rw [Piece.read, takeYear_of_ends hcs hblank hminus hplus]
    rfl
  all_goals
    rw [Piece.read, takeWithin_of_ends hcs hblank]
    rfl

/-- Numbers with nothing between them leave the end of the digits in front. -/
theorem exists_drop_of_readFrom (hps : ∀ p ∈ ps, p ∈ [.year, .month, .day]) (hds : IsDigits ds)
    (hrest : Ends rest) (hblank : Text.NotBlank rest) (hminus : rest.head? ≠ some '-')
    (hplus : rest.head? ≠ some '+') {f' : Fields} {r : List Char}
    (h : ps.readFrom f (ds ++ rest) = some (f', r)) :
    ∃ k ≤ (ps.map Piece.width).sum, r = ds.drop k ++ rest := by
  induction ps generalizing f ds with
  | nil =>
    cases h
    exact ⟨0, Nat.zero_le _, rfl⟩
  | cons p ps ih =>
    obtain ⟨hp, hps⟩ := List.forall_mem_cons.mp hps
    rw [readFrom, Option.bind_eq_bind, Option.bind_eq_some_iff] at h
    obtain ⟨⟨f'', left⟩, hread, h⟩ := h
    have hne : ds ≠ [] := by
      rintro rfl
      rw [List.nil_append, read_of_ends hp hrest hblank hminus hplus] at hread
      cases hread
    obtain ⟨k, hk, rfl⟩ := exists_drop_of_read hp hds hne hrest hread
    obtain ⟨k', hk', rfl⟩ := ih hps (hds.drop k) h
    refine ⟨k + k', ?_, by rw [List.drop_drop]⟩
    rw [List.map_cons, List.sum_cons]
    exact Nat.add_le_add hk hk'

end Pattern

end Calendar

end Mailroom
