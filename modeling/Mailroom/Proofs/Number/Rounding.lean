import Mailroom.Number.Decimal
import Mathlib.Algebra.Order.Field.Basic
import Mathlib.Algebra.Order.Field.Power
import Mathlib.Algebra.Order.Field.Rat
import Mathlib.Algebra.Ring.Parity
import Mathlib.Data.Rat.Cast.Order
import Mathlib.Tactic.FieldSimp
import Mathlib.Tactic.Linarith
import Mathlib.Tactic.Ring

/-!
# Rounding a decimal number

`Decimal.roundHalfEven` gives the integer that is nearest to a decimal number, and the even one of
two that are equally near (`Decimal.roundHalfEven_eq_iff`).
-/

namespace Mailroom.Number

/-- The integer nearest to a number; of two that are equally near it is the even one. -/
structure IsRounded (x : ℚ) (n : ℕ) : Prop where
  near : |x - n| ≤ 1 / 2
  even : |x - n| = 1 / 2 → Even n

variable {x : ℚ} {a n k u : ℕ}

theorem IsRounded.unique (hn : IsRounded x n) (hk : IsRounded x k) : n = k := by
  wlog hle : n ≤ k generalizing n k
  · exact (this hk hn (Nat.le_of_not_ge hle)).symm
  have hn' := abs_le.mp hn.near
  have hk' := abs_le.mp hk.near
  have hclose : (k : ℚ) ≤ n + 1 := by linarith
  obtain heq | hlt := hle.eq_or_lt
  · exact heq
  have hsucc : k = n + 1 := le_antisymm (by exact_mod_cast hclose) hlt
  have hmiddle : x = n + 1 / 2 := by
    rw [hsucc] at hk'
    push_cast at hk'
    linarith
  have hevenN : Even n := hn.even (by rw [hmiddle]; norm_num)
  have hevenK : Even k := hk.even (by rw [hmiddle, hsucc]; push_cast; norm_num)
  rw [hsucc, Nat.even_add_one] at hevenK
  exact absurd hevenN hevenK

theorem isRounded_natCast (n : ℕ) : IsRounded n n where
  near := by simp
  even := by simp

/-- A fraction is a whole number and what is left over. -/
theorem natCast_div_eq (a : ℕ) (hu : 0 < u) :
    (a / u : ℚ) = (a / u : ℕ) + ((a % u : ℕ) : ℚ) / u := by
  have hne : (u : ℚ) ≠ 0 := by exact_mod_cast hu.ne'
  have hdivision : (u : ℚ) * (a / u : ℕ) + (a % u : ℕ) = a := by
    exact_mod_cast Nat.div_add_mod a u
  rw [div_eq_iff hne, add_mul, div_mul_cancel₀ _ hne, mul_comm, hdivision]

/-- Rounding a fraction by its remainder. -/
theorem isRounded_div (a : ℕ) (hu : 0 < u) :
    IsRounded (a / u : ℚ)
      (if 2 * (a % u) < u then a / u
      else if u < 2 * (a % u) then a / u + 1
      else a / u + a / u % 2) := by
  have hpos : (0 : ℚ) < u := by exact_mod_cast hu
  have hrest : (0 : ℚ) ≤ ((a % u : ℕ) : ℚ) / u := div_nonneg (Nat.cast_nonneg _) hpos.le
  rw [natCast_div_eq a hu]
  split_ifs with hless hmore
  · have hlt : ((a % u : ℕ) : ℚ) / u < 1 / 2 := by
      rw [div_lt_div_iff₀ hpos two_pos]
      norm_cast
      omega
    rw [← abs_of_nonneg hrest] at hlt
    exact ⟨by simpa using hlt.le, fun heq ↦ by simp at heq; linarith⟩
  · have hgt : 1 / 2 < ((a % u : ℕ) : ℚ) / u := by
      rw [div_lt_div_iff₀ two_pos hpos]
      norm_cast
      omega
    have hlt : ((a % u : ℕ) : ℚ) / u < 1 := by
      rw [div_lt_one hpos]
      exact_mod_cast Nat.mod_lt a hu
    have hdist : |((a / u : ℕ) : ℚ) + ((a % u : ℕ) : ℚ) / u - (a / u + 1 : ℕ)| =
        1 - ((a % u : ℕ) : ℚ) / u := by
      rw [abs_of_nonpos (by push_cast; linarith)]
      push_cast
      ring
    exact ⟨by rw [hdist]; linarith, fun heq ↦ by rw [hdist] at heq; linarith⟩
  · have hhalf : ((a % u : ℕ) : ℚ) / u = 1 / 2 := by
      rw [div_eq_div_iff hpos.ne' two_ne_zero]
      norm_cast
      omega
    refine ⟨?_, fun _ ↦ Nat.even_iff.mpr (by omega)⟩
    rw [hhalf]
    obtain hzero | hone := Nat.mod_two_eq_zero_or_one (a / u)
    · rw [hzero]
      norm_num
    · rw [hone]
      push_cast
      norm_num

namespace Decimal

/-- The number that is meant. -/
def value (d : Decimal) : ℚ := d.digits * 10 ^ d.exponent

theorem isRounded_roundHalfEven (d : Decimal) (places : ℕ) :
    IsRounded (d.value * 10 ^ places) (d.roundHalfEven places) := by
  have hshift : d.value * 10 ^ places = d.digits * (10 : ℚ) ^ (d.exponent + places) := by
    rw [value, mul_assoc, zpow_add₀ (by norm_num), zpow_natCast]
  rw [hshift, roundHalfEven]
  by_cases hsign : 0 ≤ d.exponent + places
  · rw [if_pos hsign]
    obtain ⟨k, hk⟩ := Int.eq_ofNat_of_zero_le hsign
    rw [hk]
    have h := isRounded_natCast (d.digits * 10 ^ k)
    push_cast at h
    exact h
  · rw [if_neg hsign]
    obtain ⟨k, hk⟩ := Int.eq_ofNat_of_zero_le (Int.neg_nonneg.mpr (not_le.mp hsign).le)
    have hpow : (10 : ℚ) ^ (d.exponent + places) = ((10 ^ k : ℕ) : ℚ)⁻¹ := by
      rw [← neg_neg (d.exponent + places), hk, zpow_neg]
      push_cast
      rfl
    rw [hk, hpow, ← div_eq_mul_inv]
    exact isRounded_div d.digits (Nat.pow_pos (by decide))

/-- The rounded number, with the point left out, is the integer nearest to so many times the
number. -/
theorem roundHalfEven_eq_iff {d : Decimal} {places : ℕ} :
    d.roundHalfEven places = n ↔ IsRounded (d.value * 10 ^ places) n :=
  ⟨fun h ↦ h ▸ d.isRounded_roundHalfEven places, (d.isRounded_roundHalfEven places).unique⟩

end Decimal

end Mailroom.Number
