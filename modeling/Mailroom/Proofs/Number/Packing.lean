import Mailroom.Proofs.Number.Binary
import Mailroom.Proofs.Number.Rounding
import Mathlib

/-!
# Rounding to a binary64 number and packing it

The model of a float shifts digits out of a number until as many are left as the format has, rounds
what is left, and packs sign, exponent and digits into 64 bits. What comes out is the binary
fraction that the number is read as (`exists_roundWithAccuracy`), and unpacking gives it back
(`isUnpacked_pack`).
-/

namespace Mailroom.Number

open Float.Model Float.Model.UnpackedFloat

namespace Binary

variable {b c : Binary} {y : ℚ}

/-- A number is determined by its value. -/
theorem value_injective : Function.Injective value := by
  intro b c h
  wlog hle : b.exponent ≤ c.exponent generalizing b c
  · exact (this h.symm (not_le.mp hle).le).symm
  obtain ⟨k, hk⟩ := Int.exists_add_of_le hle
  have hdigits : b.digits = c.digits * 2 ^ k := by
    rw [value, value, unit, unit, hk, zpow_add₀ two_ne_zero, zpow_natCast, mul_comm (2 ^ _ : ℚ),
      ← mul_assoc] at h
    exact_mod_cast mul_right_cancel₀ (zpow_pos two_pos b.exponent).ne' h
  have hzero : k = 0 := by
    by_contra hne
    have hfull : 2 ^ 52 ≤ c.digits := c.full.resolve_right (by have := b.le_exponent; omega)
    have htwice : 2 ^ 1 ≤ 2 ^ k := Nat.pow_le_pow_right two_pos (Nat.one_le_iff_ne_zero.mpr hne)
    have hlt := b.digits_lt
    nlinarith
  subst hzero
  cases b
  cases c
  simp_all

theorem standsFor_value (b : Binary) : b.StandsFor b.value where
  nearest c := by
    rw [sub_self, abs_zero]
    exact abs_nonneg _
  even c hne heq := by
    rw [sub_self, abs_zero, eq_comm, abs_eq_zero, sub_eq_zero] at heq
    exact absurd heq.symm hne

/-- The number above an even one is odd, and a number is even below an odd one. -/
theorem not_even_of_above (h : c.value = b.value + b.unit) (hb : Even b.digits) :
    ¬Even c.digits := by
  have hlt : b.digits + 1 < 2 ^ 53 := by
    have hlt := b.digits_lt
    rw [Nat.even_iff] at hb
    omega
  have hfull : 2 ^ 52 ≤ b.digits + 1 ∨ b.exponent = -1074 := b.full.imp_left Nat.le_succ_of_le
  have heq : c = ⟨b.digits + 1, b.exponent, hlt, b.le_exponent, hfull⟩ := by
    refine value_injective (h.trans ?_)
    simp only [value, unit]
    push_cast
    ring
  rw [heq]
  exact Nat.not_even_iff_odd.mpr hb.add_one

/-- A number is read as one binary fraction only. -/
theorem StandsFor.unique (hb : b.StandsFor y) (hc : c.StandsFor y) : b = c := by
  by_contra hne
  wlog hlt : b.value < c.value generalizing b c
  · have hle : c.value ≤ b.value := not_lt.mp hlt
    exact this hc hb (Ne.symm hne) (hle.lt_of_ne fun h ↦ hne (value_injective h.symm))
  have heq : |y - b.value| = |y - c.value| := (hb.nearest c).antisymm (hc.nearest b)
  have hmiddle : 2 * y = b.value + c.value :=
    ((abs_sub_le_iff_of_lt hlt).mp heq.le).antisymm
      (by rw [add_comm]; exact (abs_sub_le_iff_of_gt hlt).mp heq.ge)
  obtain ⟨above, habove⟩ := b.exists_above
  have hupper := (abs_sub_le_iff_of_lt (by linarith [b.unit_pos])).mp (hb.nearest above)
  have hnext : c.value = b.value + b.unit := by linarith [add_unit_le hlt]
  exact not_even_of_above hnext (hb.even c hlt.ne' heq) (hc.even b hlt.ne heq.symm)

theorem value_pos (h : b.digits ≠ 0) : 0 < b.value :=
  mul_pos (by exact_mod_cast Nat.pos_of_ne_zero h) b.unit_pos

theorem value_nonneg (b : Binary) : 0 ≤ b.value := mul_nonneg (Nat.cast_nonneg _) b.unit_pos.le

/-- Nothing but a number other than zero is read as one. -/
theorem StandsFor.pos (h : b.StandsFor y) (hz : 0 ≤ y) (hne : b.digits ≠ 0) : 0 < y := by
  refine hz.lt_of_ne ?_
  rintro rfl
  have hzero : b.value = 0 := by
    let o : Binary := ⟨0, -1074, by norm_num, le_rfl, .inr rfl⟩
    have hle := h.nearest o
    have ho : o.value = 0 := by simp [o, value]
    rw [ho, zero_sub, sub_zero, abs_neg, abs_zero] at hle
    exact abs_eq_zero.mp (hle.antisymm (abs_nonneg _))
  exact (value_pos hne).ne' hzero

end Binary

/-! ## Shifting out digits -/

/-- Behind `k + 1` shifts the digits that were shifted out are told by the last of them, and by
whether one of the others was set. -/
theorem shiftRight_exact (m k : ℕ) :
    (ExtendedMantissa.mk m false false >>> (k + 1)) =
      ⟨m / 2 ^ (k + 1), m / 2 ^ k % 2 != 0, m % 2 ^ k != 0⟩ := by
  change (k + 1).repeat ExtendedMantissa.shiftRightOne _ = _
  induction k with
  | zero =>
    simp [Nat.repeat, ExtendedMantissa.shiftRightOne, Nat.mod_one]
  | succ k ih =>
    rw [Nat.repeat, ih, ExtendedMantissa.shiftRightOne]
    have hrest : m % 2 ^ (k + 1) = m % 2 ^ k + 2 ^ k * (m / 2 ^ k % 2) := Nat.mod_pow_succ
    have hsticky : (m / 2 ^ k % 2 != 0 || m % 2 ^ k != 0) = (m % 2 ^ (k + 1) != 0) := by
      rw [hrest, Bool.eq_iff_iff]
      simp only [Bool.or_eq_true, bne_iff_ne, ne_eq, Nat.add_eq_zero_iff, Nat.mul_eq_zero,
        Nat.pow_eq_zero]
      omega
    rw [hsticky, Nat.div_div_eq_div_mul, ← pow_succ]

/-- What is left after some shifts is rounded to the nearest number, and to the even one of two. -/
theorem isRounded_shiftRight (m k : ℕ) :
    IsRounded (m / (2 ^ k : ℕ) : ℚ) (ExtendedMantissa.mk m false false >>> k).roundedMantissa := by
  cases k with
  | zero =>
    rw [pow_zero, Nat.cast_one, div_one]
    exact isRounded_natCast m
  | succ k =>
    have hround := isRounded_div m (u := 2 ^ (k + 1)) (Nat.pow_pos two_pos)
    have hrest : m % 2 ^ (k + 1) = m % 2 ^ k + 2 ^ k * (m / 2 ^ k % 2) := Nat.mod_pow_succ
    have hlt : m % 2 ^ k < 2 ^ k := Nat.mod_lt _ (Nat.pow_pos two_pos)
    have htwice : 2 ^ (k + 1) = 2 * 2 ^ k := pow_succ' 2 k
    convert hround using 1
    rw [shiftRight_exact, ExtendedMantissa.roundedMantissa]
    obtain hbit | hbit := Nat.mod_two_eq_zero_or_one (m / 2 ^ k)
    · rw [hbit, mul_zero, add_zero] at hrest
      rw [hbit, hrest, if_pos (by omega)]
      cases hsticky : m % 2 ^ k != 0 <;> rfl
    · rw [hbit, mul_one] at hrest
      rw [hbit, hrest, if_neg (by omega)]
      by_cases hsticky : m % 2 ^ k = 0
      · rw [hsticky, if_neg (by omega)]
        rfl
      · rw [if_pos (by omega)]
        have hset : (m % 2 ^ k != 0) = true := bne_iff_ne.mpr hsticky
        rw [hset]
        rfl

/-! ## Rounding -/

/-- An unpacked float has a sign and a magnitude. -/
inductive IsUnpacked (s : Sign) (b : Binary) : UnpackedFloat → Prop
  | zero (h : b.digits = 0) : IsUnpacked s b (.zero s)
  | finite {digits : ℕ} {exponent : ℤ} (hdigits : digits = b.digits)
    (hexponent : exponent = b.exponent) (hpos : 0 < digits) :
    IsUnpacked s b (.finite s digits exponent hpos)

/-- A number with too many digits has as many as fit when the others are shifted out; rounding may
then make it the next power of two. -/
theorem roundedMantissa_bounds {m k : ℕ} (hlower : 2 ^ (k + 52) ≤ m) (hupper : m < 2 ^ (k + 53)) :
    2 ^ 52 ≤ (ExtendedMantissa.mk m false false >>> k).roundedMantissa ∧
      (ExtendedMantissa.mk m false false >>> k).roundedMantissa ≤ 2 ^ 53 := by
  have hpos : (0 : ℚ) < (2 ^ k : ℕ) := by positivity
  have hnear := abs_le.mp (isRounded_shiftRight m k).near
  have hlow : ((2 ^ 52 : ℕ) : ℚ) ≤ m / (2 ^ k : ℕ) := by
    rw [le_div_iff₀ hpos]
    rw [pow_add, mul_comm] at hlower
    exact_mod_cast hlower
  have hhigh : (m : ℚ) / (2 ^ k : ℕ) < (2 ^ 53 : ℕ) := by
    rw [div_lt_iff₀ hpos]
    rw [pow_add, mul_comm] at hupper
    exact_mod_cast hupper
  generalize (ExtendedMantissa.mk m false false >>> k).roundedMantissa = n at hnear
  generalize (m : ℚ) / (2 ^ k : ℕ) = x at hnear hlow hhigh
  constructor
  · have hlt : ((2 ^ 52 : ℕ) : ℚ) < (n + 1 : ℕ) := by push_cast at hlow ⊢; linarith
    exact Nat.lt_succ_iff.mp (by exact_mod_cast hlt)
  · have hlt : (n : ℚ) < (2 ^ 53 + 1 : ℕ) := by push_cast at hhigh ⊢; linarith
    exact Nat.lt_succ_iff.mp (by exact_mod_cast hlt)

/-- A number with all digits that is rounded up to a power of two, or to a number with as many
digits. -/
theorem exists_standsFor {x : ℚ} {n : ℕ} {e : ℤ} (hx : IsRounded x n) (hlow : 2 ^ 52 ≤ x)
    (hhigh : x < 2 ^ 53) (he : -1074 ≤ e) (hn : 2 ^ 52 ≤ n) :
    (n < 2 ^ 53 → ∃ b : Binary, b.digits = n ∧ b.exponent = e ∧ b.StandsFor (x * 2 ^ e)) ∧
      (n = 2 ^ 53 → ∃ b : Binary, b.digits = 2 ^ 52 ∧ b.exponent = e + 1 ∧
        b.StandsFor (x * 2 ^ e)) := by
  have hunit : (0 : ℚ) < 2 ^ e := zpow_pos two_pos e
  obtain ⟨hbelow, habove⟩ := abs_le.mp hx.near
  have hbelow' := mul_le_mul_of_nonneg_right hbelow hunit.le
  have habove' := mul_le_mul_of_nonneg_right habove hunit.le
  have hlow' := mul_le_mul_of_nonneg_right hlow hunit.le
  have hhigh' := mul_lt_mul_of_pos_right hhigh hunit
  constructor
  · intro hlt
    let b : Binary := ⟨n, e, hlt, he, .inl hn⟩
    have hvalue : b.value = n * 2 ^ e := rfl
    have hu : b.unit = 2 ^ e := rfl
    -- below a power of two the numbers lie closer, but there is nothing to be rounded up to it
    have hstep : b.step = 1 ∨ b.value ≤ x * 2 ^ e ∧ 0 < b.step := by
      by_cases hpower : b.digits = 2 ^ 52 ∧ b.exponent ≠ -1074
      · have hn : n = 2 ^ 52 := hpower.1
        rw [hvalue, hn]
        exact .inr ⟨by exact_mod_cast hlow', b.step_pos⟩
      · exact .inl (Binary.step_eq_one hpower)
    refine ⟨b, rfl, rfl, (Binary.standsFor_iff (by dsimp only [b]; omega)).mpr ⟨⟨?_, ?_⟩, ?_⟩⟩
    · obtain hone | ⟨hle, hpos⟩ := hstep
      · rw [hone, hvalue, hu]
        linarith
      · linarith [mul_pos hpos b.unit_pos]
    · rw [hvalue, hu]
      linarith
    · refine or_iff_not_imp_left.mpr fun hodd ↦ ?_
      have hne : |x - n| ≠ 1 / 2 := fun heq ↦ hodd (hx.even heq)
      obtain ⟨hmore, hless⟩ := abs_lt.mp (hx.near.lt_of_ne hne)
      have hmore' := mul_lt_mul_of_pos_right hmore hunit
      have hless' := mul_lt_mul_of_pos_right hless hunit
      constructor
      · obtain hone | ⟨hle, hpos⟩ := hstep
        · rw [hone, hvalue, hu]
          linarith
        · linarith [mul_pos hpos b.unit_pos]
      · rw [hvalue, hu]
        linarith
  · rintro rfl
    let b : Binary := ⟨2 ^ 52, e + 1, by norm_num, by omega, .inl le_rfl⟩
    have hu : b.unit = 2 * 2 ^ e := by
      simp only [b, Binary.unit, zpow_add₀ (two_ne_zero' ℚ), zpow_one, mul_comm]
    have hvalue : b.value = 2 ^ 53 * 2 ^ e := by
      rw [Binary.value, hu]
      simp only [b]
      push_cast
      ring
    have hstep : b.step = 1 / 2 := Binary.step_eq_half ⟨rfl, by dsimp only [b]; omega⟩
    refine ⟨b, rfl, rfl, (Binary.standsFor_iff (by dsimp only [b]; norm_num)).mpr
      ⟨⟨?_, ?_⟩, .inl (by dsimp only [b]; decide)⟩⟩
    · rw [hstep, hvalue, hu]
      push_cast at hbelow'
      linarith
    · rw [hvalue, hu]
      linarith

/-- Digits are shifted out until as many are left as fit, or the least exponent is reached. -/
theorem shiftToTargetExponent_eq {m k : ℕ} {e : ℤ} (hk : e + k = max (m.log2 + e - 52) (-1074)) :
    shiftToTargetExponent .binary64 m e .exact =
      (ExtendedMantissa.mk m false false >>> k, e + k) := by
  have htarget : Format.binary64.targetExponent (totalExponent m e) = e + k := by
    have hbits : ((Format.binary64.mantissaBits : ℕ) : ℤ) = 53 := rfl
    have hleast : Format.binary64.minExponent = -1074 := rfl
    rw [Format.targetExponent, totalExponent, hbits, hleast]
    omega
  have hshift : (e + k - e).toNat = k := by omega
  rw [shiftToTargetExponent, htarget, shiftToExponent, hshift]
  rfl

/-- What is rounded to the format is the number that is read as it. -/
theorem exists_roundWithAccuracy (s : Sign) {m : ℕ} {e : ℤ} (hm : 2 ^ 52 ≤ m)
    (he : -1022 ≤ m.log2 + e) :
    ∃ b : Binary, IsUnpacked s b (roundWithAccuracy .binary64 s m e .exact) ∧
      b.StandsFor (m * 2 ^ e) ∧ 2 ^ 52 ≤ b.digits ∧ b.exponent ≤ m.log2 + e - 51 := by
  have hne : m ≠ 0 := by rintro rfl; simp at hm
  have hlog : 52 ≤ m.log2 := (Nat.le_log2 hne).mpr hm
  obtain ⟨k, hk⟩ := Nat.exists_eq_add_of_le' hlog
  obtain ⟨hlower, hupper⟩ := (Nat.log2_eq_iff hne).mp hk
  obtain ⟨hlow, hhigh⟩ := roundedMantissa_bounds hlower hupper
  have hfirst := shiftToTargetExponent_eq (m := m) (k := k) (e := e) (by omega)
  have hround := isRounded_shiftRight m k
  have hpow : (0 : ℚ) < (2 ^ k : ℕ) := by positivity
  have hy : (m * 2 ^ e : ℚ) = m / (2 ^ k : ℕ) * 2 ^ (e + k) := by
    rw [zpow_add₀ two_ne_zero, zpow_natCast]
    push_cast
    field_simp
  have hstands := exists_standsFor hround
    (by rw [le_div_iff₀ hpow]; rw [pow_add, mul_comm] at hlower; exact_mod_cast hlower)
    (by rw [div_lt_iff₀ hpow]; rw [add_assoc, pow_add, mul_comm] at hupper; exact_mod_cast hupper)
    (e := e + k) (by omega) hlow
  unfold roundWithAccuracy
  rw [hfirst, hy]
  dsimp only
  generalize (ExtendedMantissa.mk m false false >>> k).roundedMantissa = n at *
  obtain hlt | rfl := hhigh.lt_or_eq
  · obtain ⟨b, hdigits, hexponent, hb⟩ := hstands.1 hlt
    have hn : n.log2 = 52 := (Nat.log2_eq_iff (by omega)).mpr ⟨hlow, hlt⟩
    have hsecond := shiftToTargetExponent_eq (m := n) (k := 0) (e := e + k) (by omega)
    have hkept : (ExtendedMantissa.mk n false false >>> 0).mantissa = n := rfl
    refine ⟨b, ?_, hb, by omega, by omega⟩
    rw [hsecond]
    dsimp only
    rw [dif_neg (by rw [hkept]; omega)]
    exact .finite (hkept.trans hdigits.symm) (by rw [hexponent]; exact add_zero _) _
  · obtain ⟨b, hdigits, hexponent, hb⟩ := hstands.2 rfl
    have hn : (2 ^ 53 : ℕ).log2 = 53 := Nat.log2_two_pow
    have hsecond := shiftToTargetExponent_eq (m := 2 ^ 53) (k := 1) (e := e + k) (by omega)
    have hkept : (ExtendedMantissa.mk (2 ^ 53) false false >>> 1).mantissa = 2 ^ 52 := by
      rw [shiftRight_exact]
      norm_num
    refine ⟨b, ?_, hb, by omega, by omega⟩
    rw [hsecond]
    dsimp only
    rw [dif_neg (by rw [hkept]; norm_num)]
    exact .finite (hkept.trans hdigits.symm) hexponent.symm _

/-! ## Packing -/

/-- What the parts of a packed number stand for. -/
theorem isUnpacked_unpack {s : Sign} {b : Binary} {e : BitVec 11} {m : BitVec 52}
    (he : e.toNat < 2047)
    (hzero : e.toNat = 0 → b.digits = m.toNat ∧ b.exponent = -1074)
    (hne : e.toNat ≠ 0 → b.digits = 2 ^ 52 + m.toNat ∧ b.exponent = e.toNat - 1075) :
    IsUnpacked s b (UnpackedFloat.unpack .binary64 (packComponents .binary64 s e m)) := by
  have hones : e ≠ -1#11 := by
    rintro rfl
    exact absurd he (by decide)
  unfold UnpackedFloat.unpack
  simp only [unpackMantissa_packComponents, unpackExponent_packComponents,
    unpackSign_packComponents, Sign.ofBitVec_toBitVec]
  rw [if_neg hones]
  by_cases h : e = 0#11
  · have hnat : e.toNat = 0 := congrArg BitVec.toNat h
    obtain ⟨hdigits, hexponent⟩ := hzero hnat
    rw [if_pos h]
    by_cases hm : m = 0#52
    · rw [dif_pos hm]
      exact .zero (hdigits.trans (congrArg BitVec.toNat hm))
    · rw [dif_neg hm]
      exact .finite hdigits.symm (by rw [hexponent, hnat]; rfl) _
  · have hnat : e.toNat ≠ 0 := fun h0 ↦ h (BitVec.eq_of_toNat_eq h0)
    obtain ⟨hdigits, hexponent⟩ := hne hnat
    rw [if_neg h]
    exact .finite ((toNat_one_append m).trans hdigits.symm) hexponent.symm _

/-- A sign and a magnitude whose exponent is not too large are packed without loss. -/
theorem isUnpacked_unpack_pack {s : Sign} {b : Binary} {u : UnpackedFloat} (h : IsUnpacked s b u)
    (hb : b.exponent ≤ 971) :
    IsUnpacked s b (UnpackedFloat.unpack .binary64 (UnpackedFloat.pack .binary64 u)) := by
  have hlt := b.digits_lt
  have hleast := b.le_exponent
  cases h with
  | zero hzero =>
    have hexponent : b.exponent = -1074 := b.full.resolve_left (by omega)
    exact isUnpacked_unpack (by decide) (fun _ ↦ ⟨hzero, hexponent⟩) fun hne ↦ absurd rfl hne
  | finite hdigits hexponent hpos =>
    subst hdigits hexponent
    have hbias : (b.exponent + (Format.binary64.exponentBias : ℕ) +
        (Format.binary64.mantissaBitsWithoutImplicit : ℕ)).toNat = (b.exponent + 1075).toNat := by
      change (b.exponent + 1023 + 52).toNat = _
      omega
    have hbits : Format.binary64.mantissaBits = 53 := rfl
    rw [UnpackedFloat.pack]
    simp only [hbias, hbits]
    rw [if_neg (by norm_num; omega)]
    by_cases hfull : 2 ^ 52 ≤ b.digits
    · have hlog : b.digits.log2 = 52 := (Nat.log2_eq_iff hpos.ne').mpr ⟨hfull, hlt⟩
      rw [if_pos (by rw [hlog])]
      have he : (BitVec.ofNat 11 (b.exponent + 1075).toNat).toNat = (b.exponent + 1075).toNat := by
        rw [BitVec.toNat_ofNat, Nat.mod_eq_of_lt (by omega)]
      have hm : (BitVec.ofNat 52 b.digits).toNat = b.digits - 2 ^ 52 := by
        rw [BitVec.toNat_ofNat]
        omega
      exact isUnpacked_unpack (by omega) (by omega) (by omega)
    · have hlog : b.digits.log2 < 52 := (Nat.log2_lt hpos.ne').mpr (not_le.mp hfull)
      rw [if_neg (by omega)]
      have hm : (BitVec.ofNat 52 b.digits).toNat = b.digits := by
        rw [BitVec.toNat_ofNat, Nat.mod_eq_of_lt (not_le.mp hfull)]
      exact isUnpacked_unpack (by decide) (fun _ ↦ ⟨hm.symm, b.full.resolve_left hfull⟩)
        fun hne ↦ absurd rfl hne

theorem isUnpacked_pack {s : Sign} {b : Binary} {u : UnpackedFloat} (h : IsUnpacked s b u)
    (hb : b.exponent ≤ 971) : IsUnpacked s b (Float.Model.pack u).unpack :=
  isUnpacked_unpack_pack h hb

end Mailroom.Number
