import Mailroom.Proofs.Number.Digits
import Mathlib.Algebra.Order.Ring.Nat
import Mathlib.Tactic.Ring

/-!
# Plain decimal notation

A number of a fixed count of places is written with all of its places, and with no zero in front
that could be left out (`IsPlain`). Filling the digits up with zeros and setting the places apart
gives this notation (`isPlain_zeroPadded`).
-/

namespace Mailroom.Number

variable {ds : List Char} {c : Char} {n k places : ℕ}

/-! ## The value of digits -/

theorem digit_lt_ten (h : c.isDigit = true) : c.toNat - '0'.toNat < 10 := by
  have hnine : '9'.toNat = 57 := rfl
  have hzero : '0'.toNat = 48 := rfl
  have hle := (Char.isDigit_iff_toNat.mp h).2
  omega

theorem digitsValue_lt (hds : IsDigits ds) (n : ℕ) :
    digitsValue n ds < (n + 1) * 10 ^ ds.length := by
  induction ds generalizing n with
  | nil => simp [digitsValue]
  | cons d ds ih =>
    obtain ⟨hd, hds⟩ := isDigits_cons.mp hds
    have hlt := digit_lt_ten hd
    calc digitsValue n (d :: ds)
        = digitsValue (n * 10 + (d.toNat - '0'.toNat)) ds := rfl
      _ < (n * 10 + (d.toNat - '0'.toNat) + 1) * 10 ^ ds.length := ih hds _
      _ ≤ (n * 10 + 10) * 10 ^ ds.length := Nat.mul_le_mul_right _ (by omega)
      _ = (n + 1) * 10 ^ (d :: ds).length := by rw [List.length_cons]; ring

/-- What is written for a number begins with a zero only if it is the zero. -/
theorem natText_of_zero (h : (natText n).head? = some '0') : natText n = ['0'] := by
  obtain ⟨d, ds, hds⟩ := List.exists_cons_of_ne_nil (natText_ne_nil n)
  rw [hds] at h ⊢
  obtain rfl : d = '0' := Option.some.inj h
  cases ds with
  | nil => rfl
  | cons e es =>
    have hdigits : IsDigits (e :: es) := (isDigits_cons.mp (hds ▸ isDigits_natText n)).2
    have hvalue : digitsValue 0 (e :: es) = n := by
      have h := digitsValue_natText n
      rw [hds] at h
      exact h
    have hlt := digitsValue_lt hdigits 0
    rw [hvalue, Nat.zero_add, Nat.one_mul] at hlt
    have hle := (length_natText_le_iff (by simp)).mpr hlt
    rw [hds, List.length_cons] at hle
    omega

/-! ## Whole part and places -/

/-- The number `n / 10 ^ places`, written with all of its places, and with no zero in front that
could be left out. -/
structure IsPlain (places n : ℕ) (whole fraction : List Char) : Prop where
  whole_digits : IsDigits whole
  whole_ne_nil : whole ≠ []
  whole_of_zero : whole.head? = some '0' → whole = ['0']
  fraction_digits : IsDigits fraction
  fraction_length : fraction.length = places
  value : digitsValue 0 (whole ++ fraction) = n

theorem lt_length_zeroPadded (places n : ℕ) : places < (zeroPadded (places + 1) n).length := by
  rw [zeroPadded, List.length_append, List.length_replicate]
  omega

theorem isPlain_zeroPadded (hk : (zeroPadded (places + 1) n).length = k + places) :
    IsPlain places n ((zeroPadded (places + 1) n).take k)
      ((zeroPadded (places + 1) n).drop k) := by
  have hlt := lt_length_zeroPadded places n
  have hdigits := isDigits_zeroPadded (places + 1) n
  have hlength : ((zeroPadded (places + 1) n).take k).length = k := by
    rw [List.length_take]
    omega
  refine {
    whole_digits := hdigits.take k
    whole_ne_nil := List.ne_nil_of_length_pos (by omega)
    whole_of_zero := fun hzero ↦ ?_
    fraction_digits := hdigits.drop k
    fraction_length := by rw [List.length_drop]; omega
    value := by rw [List.take_append_drop, digitsValue_zeroPadded] }
  by_cases hfull : places + 1 ≤ (natText n).length
  -- Nothing is filled up, and the number begins as it is written.
  · rw [zeroPadded_eq_natText hfull] at hk hlt hzero hlength ⊢
    rw [List.head?_take, if_neg (by omega)] at hzero
    have htext := natText_of_zero hzero
    rw [htext, List.length_singleton] at hk hlt
    rw [htext, List.take_of_length_le (by rw [List.length_singleton]; omega)]
  -- There is one digit in front of the places.
  · have hone : k = 1 := by
      rw [zeroPadded, List.length_append, List.length_replicate] at hk
      omega
    obtain ⟨d, hd⟩ := List.length_eq_one_iff.mp (hlength.trans hone)
    rw [hd] at hzero ⊢
    rw [Option.some.inj hzero]

end Mailroom.Number
