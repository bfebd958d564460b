import Mailroom.Number.Reading
import Mathlib.Algebra.Group.Nat.Defs

/-!
# Digits

What is written for a natural number, with zeros in front or without, is a list of digits that reads
as the number. A list of digits is read up to its end if no digit stands behind it (`Ends`).
-/

namespace Mailroom.Number

variable {ds cs : List Char} {n width : ℕ}

/-! ## Lists of digits -/

/-- A list of ASCII digits. -/
def IsDigits (ds : List Char) : Prop := ∀ c ∈ ds, c.isDigit = true

@[simp] theorem isDigits_nil : IsDigits [] := List.forall_mem_nil _

@[simp] theorem isDigits_cons {c : Char} : IsDigits (c :: ds) ↔ c.isDigit = true ∧ IsDigits ds :=
  List.forall_mem_cons

@[simp] theorem isDigits_append : IsDigits (ds ++ cs) ↔ IsDigits ds ∧ IsDigits cs :=
  List.forall_mem_append

theorem IsDigits.take (h : IsDigits ds) (k : ℕ) : IsDigits (ds.take k) :=
  fun c hc ↦ h c (List.mem_of_mem_take hc)

theorem IsDigits.drop (h : IsDigits ds) (k : ℕ) : IsDigits (ds.drop k) :=
  fun c hc ↦ h c (List.mem_of_mem_drop hc)

theorem isDigits_replicate (k : ℕ) : IsDigits (List.replicate k '0') := by
  intro c hc
  rw [List.eq_of_mem_replicate hc]
  rfl

theorem digitsValue_append (n : ℕ) (ds cs : List Char) :
    digitsValue n (ds ++ cs) = digitsValue (digitsValue n ds) cs :=
  List.foldl_append

theorem digitsValue_replicate (k : ℕ) : digitsValue 0 (List.replicate k '0') = 0 := by
  induction k with
  | zero => rfl
  | succ k ih =>
    rw [List.replicate_succ]
    exact ih

theorem readNat?_of_isDigits (h : IsDigits ds) (hne : ds ≠ []) :
    readNat? ds = some (digitsValue 0 ds) := by
  rw [readNat?, List.isEmpty_eq_false_iff.mpr hne, List.all_eq_true.mpr h]
  rfl

theorem isDigits_of_readNat? (h : readNat? ds = some n) : IsDigits ds := by
  unfold readNat? at h
  split at h
  · cases h
  · rename_i hall
    simp only [Bool.or_eq_true, Bool.not_eq_true', not_or, Bool.not_eq_false] at hall
    exact List.all_eq_true.mp hall.2

/-! ## Written numbers -/

theorem isDigits_natText (n : ℕ) : IsDigits (natText n) :=
  fun _ ↦ Nat.isDigit_of_mem_toDigits (by decide) (by decide)

theorem natText_ne_nil (n : ℕ) : natText n ≠ [] := Nat.toDigits_ne_nil

theorem digitsValue_natText (n : ℕ) : digitsValue 0 (natText n) = n := by
  have hfold : digitsValue 0 (natText n) = Nat.ofDigitChars 10 (Nat.toDigits 10 n) 0 := by
    unfold digitsValue natText Nat.ofDigitChars
    simp only [Nat.mul_comm]
  rw [hfold, Nat.ofDigitChars_toDigits (by decide) (by decide)]

/-- What is written for a number reads as the number. -/
theorem readNat?_natText (n : ℕ) : readNat? (natText n) = some n := by
  rw [readNat?_of_isDigits (isDigits_natText n) (natText_ne_nil n), digitsValue_natText]

theorem length_natText_le_iff (h : 0 < width) : (natText n).length ≤ width ↔ n < 10 ^ width :=
  Nat.length_toDigits_le_iff (by decide) h

theorem isDigits_zeroPadded (width n : ℕ) : IsDigits (zeroPadded width n) :=
  isDigits_append.mpr ⟨isDigits_replicate _, isDigits_natText n⟩

theorem digitsValue_zeroPadded (width n : ℕ) : digitsValue 0 (zeroPadded width n) = n := by
  rw [zeroPadded, digitsValue_append, digitsValue_replicate, digitsValue_natText]

theorem length_zeroPadded (hwidth : 0 < width) (h : n < 10 ^ width) :
    (zeroPadded width n).length = width := by
  have hle := (length_natText_le_iff hwidth).mpr h
  rw [zeroPadded, List.length_append, List.length_replicate]
  omega

/-- A number that is long enough is not filled up. -/
theorem zeroPadded_eq_natText (h : width ≤ (natText n).length) :
    zeroPadded width n = natText n := by
  rw [zeroPadded, Nat.sub_eq_zero_of_le h]
  rfl

theorem fitsInt64_iff {i : Int} :
    fitsInt64 i = true ↔ -9223372036854775808 ≤ i ∧ i ≤ 9223372036854775807 := by
  rw [fitsInt64, Bool.and_eq_true, decide_eq_true_iff, decide_eq_true_iff]
  rfl

/-! ## The end of a number -/

/-- No digit stands in front of a text, so that a number before it ends there. -/
def Ends (cs : List Char) : Prop := ∀ c ∈ cs.head?, c.isDigit = false

@[simp] theorem ends_nil : Ends [] := nofun

@[simp] theorem ends_cons {c : Char} : Ends (c :: cs) ↔ c.isDigit = false := by
  simp [Ends]

theorem takeWhile_digits (hds : IsDigits ds) (hcs : Ends cs) :
    (ds ++ cs).takeWhile Char.isDigit = ds := by
  rw [List.takeWhile_append_of_pos hds]
  cases cs with
  | nil => simp
  | cons c cs => rw [List.takeWhile_cons_of_neg (by simp [ends_cons.mp hcs]), List.append_nil]

theorem dropWhile_digits (hds : IsDigits ds) (hcs : Ends cs) :
    (ds ++ cs).dropWhile Char.isDigit = cs := by
  rw [List.dropWhile_append_of_pos hds]
  cases cs with
  | nil => rfl
  | cons c cs => rw [List.dropWhile_cons_of_neg (by simp [ends_cons.mp hcs])]

end Mailroom.Number
