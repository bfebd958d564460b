import Mailroom.Number.Shortest
import Mathlib.Algebra.Order.Field.Basic
import Mathlib.Algebra.Order.Field.Power
import Mathlib.Algebra.Order.Field.Rat
import Mathlib.Algebra.Ring.Parity
import Mathlib.Tactic.FieldSimp
import Mathlib.Tactic.Linarith
import Mathlib.Tactic.NormNum
import Mathlib.Tactic.Ring

/-!
# What a binary fraction stands for

A number in decimal notation is read as the binary64 number that is nearest to it, and as the even
one of two that are equally near (`Binary.StandsFor`). The numbers that are read as a given one make
an interval, of which `Rounding.ofParts` has the ends (`Binary.holds_iff`). It ends half-way to the
neighbours, and the lower neighbour of a power of two is nearer than the upper one.
-/

namespace Mailroom.Number

/-- The magnitude of a binary64 number, were the exponent not bounded from above: an integer of 53
binary digits, or of fewer for the least exponent, times a power of two. -/
structure Binary where
  digits : ℕ
  exponent : ℤ
  digits_lt : digits < 2 ^ 53
  le_exponent : -1074 ≤ exponent
  full : 2 ^ 52 ≤ digits ∨ exponent = -1074

namespace Binary

variable {b c : Binary} {y : ℚ}

/-- The number `2 ^ exponent`. -/
def unit (b : Binary) : ℚ := 2 ^ b.exponent

/-- The number that is meant. -/
def value (b : Binary) : ℚ := b.digits * b.unit

/-- A number is read as a binary fraction: none is nearer, and of two that are equally near it is
the even one. -/
structure StandsFor (b : Binary) (y : ℚ) : Prop where
  nearest : ∀ c : Binary, |y - b.value| ≤ |y - c.value|
  even : ∀ c : Binary, c.value ≠ b.value → |y - b.value| = |y - c.value| → Even b.digits

theorem unit_pos (b : Binary) : 0 < b.unit := zpow_pos two_pos _

/-! ## Neighbours -/

/-- The distance to the lower neighbour, in units. -/
def step (b : Binary) : ℚ := if b.digits = 2 ^ 52 ∧ b.exponent ≠ -1074 then 1 / 2 else 1

theorem step_pos (b : Binary) : 0 < b.step := by
  unfold step
  split_ifs
  · norm_num
  · norm_num

theorem step_le_one (b : Binary) : b.step ≤ 1 := by
  unfold step
  split_ifs
  · norm_num
  · norm_num

theorem step_eq_half (h : b.digits = 2 ^ 52 ∧ b.exponent ≠ -1074) : b.step = 1 / 2 := if_pos h

theorem step_eq_one (h : ¬(b.digits = 2 ^ 52 ∧ b.exponent ≠ -1074)) : b.step = 1 := if_neg h

/-- Another number is a whole number of units; or else its exponent is smaller, and then it lies
below all numbers that have all digits. -/
theorem whole_or_below (b c : Binary) :
    (∃ m : ℕ, c.value = m * b.unit) ∨
      c.value ≤ (2 ^ 52 - 1 / 2) * b.unit ∧ 2 ^ 52 ≤ b.digits ∧ b.exponent ≠ -1074 := by
  obtain hle | hlt := le_or_gt b.exponent c.exponent
  · obtain ⟨k, hk⟩ := Int.exists_add_of_le hle
    refine .inl ⟨c.digits * 2 ^ k, ?_⟩
    rw [value, unit, unit, hk, zpow_add₀ two_ne_zero, zpow_natCast]
    push_cast
    ring
  · obtain ⟨k, hk⟩ := Int.exists_add_of_le (Int.add_one_le_of_lt hlt)
    have hne : b.exponent ≠ -1074 := by
      have hleast := c.le_exponent
      omega
    have hdigits : (c.digits : ℚ) ≤ 2 ^ 53 - 1 := by
      have hlt : ((c.digits + 1 : ℕ) : ℚ) ≤ (2 ^ 53 : ℕ) := by exact_mod_cast c.digits_lt
      push_cast at hlt
      linarith
    have hunit : b.unit = 2 * 2 ^ k * c.unit := by
      rw [unit, unit, hk, zpow_add₀ two_ne_zero, zpow_add₀ two_ne_zero, zpow_natCast, zpow_one]
      ring
    have hpow : c.unit ≤ 2 ^ k * c.unit :=
      le_mul_of_one_le_left c.unit_pos.le (one_le_pow₀ one_le_two)
    refine .inr ⟨?_, b.full.resolve_right hne, hne⟩
    calc c.value
        ≤ (2 ^ 53 - 1) * c.unit := mul_le_mul_of_nonneg_right hdigits c.unit_pos.le
      _ ≤ (2 ^ 53 - 1) * (2 ^ k * c.unit) := mul_le_mul_of_nonneg_left hpow (by norm_num)
      _ = (2 ^ 52 - 1 / 2) * b.unit := by rw [hunit]; ring

theorem digits_cast_le (h : 2 ^ 52 ≤ b.digits) : 2 ^ 52 * b.unit ≤ b.value := by
  have hcast : ((2 ^ 52 : ℕ) : ℚ) ≤ b.digits := by exact_mod_cast h
  push_cast at hcast
  exact mul_le_mul_of_nonneg_right hcast b.unit_pos.le

/-- A greater number is greater by a unit at least. -/
theorem add_unit_le (h : b.value < c.value) : b.value + b.unit ≤ c.value := by
  obtain ⟨m, hm⟩ | ⟨hbelow, hdigits, -⟩ := b.whole_or_below c
  · have hlt : b.digits < m := by
      rw [hm] at h
      exact_mod_cast lt_of_mul_lt_mul_right h b.unit_pos.le
    have hle : ((b.digits + 1 : ℕ) : ℚ) * b.unit ≤ m * b.unit :=
      mul_le_mul_of_nonneg_right (by exact_mod_cast hlt) b.unit_pos.le
    rw [hm, value]
    push_cast at hle
    linarith
  · have hle := digits_cast_le hdigits
    linarith [b.unit_pos]

/-- A smaller number is smaller by a step at least. -/
theorem le_sub_step (h : c.value < b.value) : c.value ≤ b.value - b.step * b.unit := by
  have hstep := mul_le_mul_of_nonneg_right b.step_le_one b.unit_pos.le
  obtain ⟨m, hm⟩ | ⟨hbelow, hdigits, hne⟩ := b.whole_or_below c
  · have hlt : m < b.digits := by
      rw [hm] at h
      exact_mod_cast lt_of_mul_lt_mul_right h b.unit_pos.le
    have hle : ((m + 1 : ℕ) : ℚ) * b.unit ≤ b.digits * b.unit :=
      mul_le_mul_of_nonneg_right (by exact_mod_cast hlt) b.unit_pos.le
    rw [hm, value]
    push_cast at hle
    linarith
  · obtain heq | hlt := hdigits.eq_or_lt
    · have hvalue := digits_cast_le hdigits
      rw [step_eq_half ⟨heq.symm, hne⟩]
      linarith
    · have hle : ((2 ^ 52 + 1 : ℕ) : ℚ) * b.unit ≤ b.value :=
        mul_le_mul_of_nonneg_right (by exact_mod_cast hlt) b.unit_pos.le
      push_cast at hle
      linarith [b.unit_pos]

theorem exists_above (b : Binary) : ∃ c : Binary, c.value = b.value + b.unit := by
  obtain hlt | hge := lt_or_ge (b.digits + 1) (2 ^ 53)
  · have hfull : 2 ^ 52 ≤ b.digits + 1 ∨ b.exponent = -1074 := b.full.imp_left Nat.le_succ_of_le
    refine ⟨⟨b.digits + 1, b.exponent, hlt, b.le_exponent, hfull⟩, ?_⟩
    simp only [value, unit]
    push_cast
    ring
  · have hdigits : b.digits = 2 ^ 53 - 1 := by
      have hlt := b.digits_lt
      omega
    refine ⟨⟨2 ^ 52, b.exponent + 1, by norm_num, by linarith [b.le_exponent], .inl le_rfl⟩, ?_⟩
    simp only [value, unit, hdigits, zpow_add₀ (two_ne_zero' ℚ), zpow_one]
    push_cast
    ring

theorem exists_below (h : b.digits ≠ 0) : ∃ c : Binary, c.value = b.value - b.step * b.unit := by
  by_cases hpower : b.digits = 2 ^ 52 ∧ b.exponent ≠ -1074
  · have hleast := b.le_exponent
    have hle : -1074 ≤ b.exponent - 1 := by
      have hne := hpower.2
      omega
    refine ⟨⟨2 ^ 53 - 1, b.exponent - 1, by norm_num, hle, .inl (by norm_num)⟩, ?_⟩
    rw [step_eq_half hpower]
    simp only [value, unit, hpower.1, zpow_sub₀ (two_ne_zero' ℚ), zpow_one]
    push_cast
    ring
  · have hfull : 2 ^ 52 ≤ b.digits - 1 ∨ b.exponent = -1074 := by
      have hfull := b.full
      omega
    have hlt := b.digits_lt
    refine ⟨⟨b.digits - 1, b.exponent, by omega, b.le_exponent, hfull⟩, ?_⟩
    rw [step_eq_one hpower]
    simp only [value, unit]
    rw [Nat.cast_sub (Nat.one_le_iff_ne_zero.mpr h)]
    push_cast
    ring

/-! ## Half-way to the neighbours -/

theorem abs_sub_le_iff_of_lt {v w : ℚ} (h : v < w) : |y - v| ≤ |y - w| ↔ 2 * y ≤ v + w := by
  rw [← sq_le_sq]
  constructor
  · intro hle
    nlinarith
  · intro hle
    nlinarith

theorem abs_sub_le_iff_of_gt {v w : ℚ} (h : w < v) : |y - v| ≤ |y - w| ↔ v + w ≤ 2 * y := by
  rw [← sq_le_sq]
  constructor
  · intro hle
    nlinarith
  · intro hle
    nlinarith

theorem abs_sub_eq_of_eq {v w : ℚ} (h : 2 * y = v + w) : |y - v| = |y - w| := by
  rw [abs_sub_comm y w]
  congr 1
  linarith

/-- Twice the ends of the interval between the middles of a number and its neighbours. -/
structure Within (b : Binary) (y : ℚ) : Prop where
  lower : 2 * b.value - b.step * b.unit ≤ 2 * y
  upper : 2 * y ≤ 2 * b.value + b.unit

theorem StandsFor.within (h : b.StandsFor y) (hne : b.digits ≠ 0) : b.Within y := by
  obtain ⟨above, habove⟩ := b.exists_above
  obtain ⟨below, hbelow⟩ := exists_below hne
  have hstep := mul_pos b.step_pos b.unit_pos
  have hupper := (abs_sub_le_iff_of_lt (by linarith [b.unit_pos])).mp (h.nearest above)
  have hlower := (abs_sub_le_iff_of_gt (by linarith)).mp (h.nearest below)
  exact ⟨by linarith, by linarith⟩

/-- What is read as a number lies between the middles to its neighbours, and lies in a middle only
if the number is even. -/
theorem standsFor_iff (hne : b.digits ≠ 0) :
    b.StandsFor y ↔ b.Within y ∧ (Even b.digits ∨
      2 * b.value - b.step * b.unit < 2 * y ∧ 2 * y < 2 * b.value + b.unit) := by
  have hstep := mul_pos b.step_pos b.unit_pos
  constructor
  · intro h
    have hwithin := h.within hne
    refine ⟨hwithin, or_iff_not_imp_left.mpr fun hodd ↦ ⟨?_, ?_⟩⟩
    · obtain ⟨below, hbelow⟩ := exists_below hne
      refine hwithin.lower.lt_of_ne fun heq ↦ hodd (h.even below (by linarith) ?_)
      exact abs_sub_eq_of_eq (by linarith)
    · obtain ⟨above, habove⟩ := b.exists_above
      refine hwithin.upper.lt_of_ne fun heq ↦ hodd (h.even above (by linarith [b.unit_pos]) ?_)
      exact abs_sub_eq_of_eq (by linarith)
  · rintro ⟨⟨hlower, hupper⟩, hends⟩
    refine ⟨fun c ↦ ?_, fun c hcne heq ↦ ?_⟩
    · obtain hlt | heq | hgt := lt_trichotomy b.value c.value
      · exact (abs_sub_le_iff_of_lt hlt).mpr (by linarith [add_unit_le hlt])
      · rw [heq]
      · exact (abs_sub_le_iff_of_gt hgt).mpr (by linarith [le_sub_step hgt])
    · refine hends.resolve_right fun ⟨hl, hu⟩ ↦ ?_
      obtain hgt | hlt := hcne.lt_or_gt
      · have hle := (abs_sub_le_iff_of_lt hgt).mp heq.ge
        linarith [le_sub_step hgt]
      · have hle := (abs_sub_le_iff_of_gt hlt).mp heq.ge
        linarith [add_unit_le hlt]

end Binary

/-! ## The interval -/

namespace Rounding

/-- The number in the middle of the interval. -/
def center (r : Rounding) : ℚ := r.value / r.denominator

/-- The lower end. -/
def low (r : Rounding) : ℚ := r.lower / r.denominator

/-- The upper end. -/
def high (r : Rounding) : ℚ := r.upper / r.denominator

/-- A number lies in the interval. -/
def Holds (r : Rounding) (y : ℚ) : Prop :=
  r.low ≤ y ∧ y ≤ r.high ∧ (r.closed = false → r.low < y ∧ y < r.high)

theorem contains_iff {r : Rounding} {n d : ℕ} (hr : 0 < r.denominator) (hd : 0 < d) :
    r.contains n d = true ↔ r.Holds (n / d) := by
  have hr' : (0 : ℚ) < r.denominator := by exact_mod_cast hr
  have hd' : (0 : ℚ) < d := by exact_mod_cast hd
  unfold contains Holds low high
  rw [div_le_div_iff₀ hr' hd', div_le_div_iff₀ hd' hr', div_lt_div_iff₀ hr' hd',
    div_lt_div_iff₀ hd' hr']
  norm_cast
  cases r.closed with
  | true => simp
  | false =>
    simp only [Bool.false_eq_true, if_false, Bool.and_eq_true, decide_eq_true_eq, forall_const]
    exact ⟨fun h ↦ ⟨h.1.le, h.2.le, h⟩, fun h ↦ h.2.2⟩

end Rounding

namespace Binary

/-- The interval of a number. -/
def interval (b : Binary) : Rounding := .ofParts b.digits b.exponent

variable {b : Binary} {y : ℚ}

theorem interval_denominator_pos (b : Binary) : 0 < b.interval.denominator :=
  Nat.pow_pos two_pos

/-- The parts of the interval are quarters of a unit. -/
theorem quarter_eq (b : Binary) :
    ((Nat.pow 2 (b.exponent - 2).toNat : ℕ) : ℚ) / b.interval.denominator = b.unit / 4 := by
  change ((2 ^ (b.exponent - 2).toNat : ℕ) : ℚ) / (2 ^ (2 - b.exponent).toNat : ℕ) = _
  rw [unit]
  obtain hle | hle := le_total 2 b.exponent
  · obtain ⟨k, hk⟩ := Int.exists_add_of_le hle
    have hup : (b.exponent - 2).toNat = k := by omega
    have hdown : (2 - b.exponent).toNat = 0 := by omega
    rw [hup, hdown, hk, zpow_add₀ two_ne_zero, zpow_natCast]
    push_cast
    norm_num
  · obtain ⟨k, hk⟩ := Int.exists_add_of_le hle
    have hup : (b.exponent - 2).toNat = 0 := by omega
    have hdown : (2 - b.exponent).toNat = k := by omega
    have hexponent : b.exponent = 2 - k := by omega
    rw [hup, hdown, hexponent, zpow_sub₀ two_ne_zero, zpow_natCast]
    push_cast
    norm_num
    ring

theorem interval_center (b : Binary) : b.interval.center = b.value := by
  have hvalue : b.interval.value = 4 * b.digits * Nat.pow 2 (b.exponent - 2).toNat := rfl
  rw [Rounding.center, hvalue, Nat.cast_mul, mul_div_assoc, b.quarter_eq, value]
  push_cast
  ring

theorem interval_high (b : Binary) : b.interval.high = b.value + b.unit / 2 := by
  have hupper : b.interval.upper = (4 * b.digits + 2) * Nat.pow 2 (b.exponent - 2).toNat := rfl
  rw [Rounding.high, hupper, Nat.cast_mul, mul_div_assoc, b.quarter_eq, value]
  push_cast
  ring

theorem interval_low (hne : b.digits ≠ 0) :
    b.interval.low = b.value - b.step * b.unit / 2 := by
  have hlower : b.interval.lower =
      (4 * b.digits - if b.digits = 2 ^ 52 ∧ b.exponent ≠ -1074 then 1 else 2) *
        Nat.pow 2 (b.exponent - 2).toNat := rfl
  rw [Rounding.low, hlower, Nat.cast_mul, mul_div_assoc, b.quarter_eq, value]
  by_cases hpower : b.digits = 2 ^ 52 ∧ b.exponent ≠ -1074
  · rw [if_pos hpower, step_eq_half hpower, Nat.cast_sub (by omega)]
    push_cast
    ring
  · rw [if_neg hpower, step_eq_one hpower, Nat.cast_sub (by omega)]
    push_cast
    ring

/-- The interval of a number has just the numbers that are read as it. -/
theorem holds_iff (hne : b.digits ≠ 0) : b.interval.Holds y ↔ b.StandsFor y := by
  have hclosed : b.interval.closed = false ↔ ¬Even b.digits := by
    change (b.digits % 2 == 0) = false ↔ _
    rw [Nat.even_iff, beq_eq_false_iff_ne]
  rw [standsFor_iff hne, Rounding.Holds, interval_low hne, b.interval_high, hclosed,
    ← or_iff_not_imp_left]
  constructor
  · rintro ⟨hlow, hhigh, hends⟩
    refine ⟨⟨by linarith, by linarith⟩, hends.imp_right fun ⟨hl, hh⟩ ↦ ⟨by linarith, by linarith⟩⟩
  · rintro ⟨⟨hlow, hhigh⟩, hends⟩
    exact ⟨by linarith, by linarith, hends.imp_right fun ⟨hl, hh⟩ ↦ ⟨by linarith, by linarith⟩⟩

end Binary

/-! ## Floats -/

open Float.Model Float.Model.UnpackedFloat

/-- The magnitude of a finite number. -/
def magnitude (x : Float) : ℚ :=
  match x.toModel.unpack with
  | .finite _ digits exponent _ => digits * 2 ^ exponent
  | _ => 0

section

variable {bits : BitVec Format.binary64.numBits}

theorem toNat_unpackMantissa (bits : BitVec Format.binary64.numBits) :
    (unpackMantissa bits).toNat = bits.toNat % Nat.pow 2 52 := by
  rw [unpackMantissa, BitVec.toNat_cast, BitVec.extractLsb_toNat, Nat.shiftRight_zero]
  rfl

theorem toNat_unpackExponent (bits : BitVec Format.binary64.numBits) :
    (unpackExponent bits).toNat = bits.toNat / Nat.pow 2 52 % Nat.pow 2 11 := by
  rw [unpackExponent, BitVec.toNat_cast, BitVec.extractLsb_toNat, Nat.shiftRight_eq_div_pow]
  rfl

/-- The first digit is not among the bits. -/
theorem toNat_one_append (m : BitVec 52) : (1#1 ++ m).toNat = 2 ^ 52 + m.toNat := by
  rw [BitVec.toNat_append, ← Nat.shiftLeft_add_eq_or_of_lt m.isLt]
  rfl

theorem unpack_of_exponent_eq_zero (h : unpackExponent bits = 0#11) :
    UnpackedFloat.unpack .binary64 bits = .zero (.ofBitVec (unpackSign bits)) ∧
        unpackMantissa bits = 0#52 ∨
      ∃ hpos, UnpackedFloat.unpack .binary64 bits =
        .finite (.ofBitVec (unpackSign bits)) (unpackMantissa bits).toNat (-1074) hpos := by
  unfold UnpackedFloat.unpack
  dsimp only
  rw [h, if_neg (by decide), if_pos rfl]
  by_cases hzero : unpackMantissa bits = 0#_
  · exact .inl ⟨dif_pos hzero, hzero⟩
  · have hpos : 0 < (unpackMantissa bits).toNat :=
      Nat.pos_of_ne_zero fun h0 ↦ hzero (BitVec.eq_of_toNat_eq h0)
    exact .inr ⟨hpos, dif_neg hzero⟩

theorem unpack_of_exponent_ne_zero (h : unpackExponent bits ≠ 0#_)
    (hfinite : (UnpackedFloat.unpack .binary64 bits).isFinite = true) :
    ∃ hpos, UnpackedFloat.unpack .binary64 bits = .finite (.ofBitVec (unpackSign bits))
      (1#1 ++ unpackMantissa bits).toNat ((unpackExponent bits).toNat - 1075) hpos := by
  unfold UnpackedFloat.unpack at hfinite ⊢
  dsimp only at hfinite ⊢
  by_cases hones : unpackExponent bits = -1#_
  · rw [if_pos hones] at hfinite
    by_cases hzero : unpackMantissa bits = 0#_
    · rw [if_pos hzero] at hfinite
      cases hfinite
    · rw [if_neg hzero] at hfinite
      cases hfinite
  · have hpos : 0 < (1#1 ++ unpackMantissa bits).toNat := by
      rw [toNat_one_append]
      omega
    rw [if_neg hones, if_neg h]
    exact ⟨hpos, rfl⟩

end

/-- The bits of a number. -/
def bits (x : Float) : BitVec Format.binary64.numBits := x.toModel.toBits.toBitVec

theorem binaryParts_eq (x : Float) : binaryParts x =
    if (unpackExponent (bits x)).toNat = 0 then ((unpackMantissa (bits x)).toNat, -1074)
    else (2 ^ 52 + (unpackMantissa (bits x)).toNat,
      ((unpackExponent (bits x)).toNat : ℤ) - 1075) := by
  rw [toNat_unpackMantissa, toNat_unpackExponent]
  rfl

namespace Binary

/-- The magnitude of a number. -/
def ofFloat (x : Float) : Binary where
  digits := (binaryParts x).1
  exponent := (binaryParts x).2
  digits_lt := by
    have hlt : (unpackMantissa (bits x)).toNat < 2 ^ 52 := (unpackMantissa (bits x)).isLt
    rw [binaryParts_eq]
    split_ifs
    · exact hlt.trans (by norm_num)
    · dsimp only
      omega
  le_exponent := by
    rw [binaryParts_eq]
    split_ifs
    · exact le_rfl
    · dsimp only
      omega
  full := by
    rw [binaryParts_eq]
    split_ifs
    · exact .inr rfl
    · exact .inl (Nat.le_add_right _ _)

theorem value_ofFloat {x : Float} (h : x.isFinite = true) : (ofFloat x).value = magnitude x := by
  have hparts : (ofFloat x).value = (binaryParts x).1 * 2 ^ (binaryParts x).2 := rfl
  have hunpack : x.toModel.unpack = UnpackedFloat.unpack .binary64 (bits x) := rfl
  rw [hparts, binaryParts_eq, magnitude, hunpack]
  by_cases hzero : unpackExponent (bits x) = 0#11
  · have hnat : (unpackExponent (bits x)).toNat = 0 := congrArg BitVec.toNat hzero
    rw [if_pos hnat]
    obtain ⟨heq, hmantissa⟩ | ⟨hpos, heq⟩ := unpack_of_exponent_eq_zero hzero
    · rw [heq, hmantissa]
      simp
    · rw [heq]
  · have hfinite : (UnpackedFloat.unpack .binary64 (bits x)).isFinite = true := h
    obtain ⟨hpos, heq⟩ := unpack_of_exponent_ne_zero hzero hfinite
    have hnat : (unpackExponent (bits x)).toNat ≠ 0 := fun h0 ↦ hzero (BitVec.eq_of_toNat_eq h0)
    rw [if_neg hnat, heq]
    dsimp only
    rw [toNat_one_append]

end Binary

end Mailroom.Number
