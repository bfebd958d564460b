import Mailroom.Proofs.Number.Packing

/-!
# The numbers that floats stand for

Finite floats are equal if the numbers are that they stand for (`beq_iff_value_eq`). An integer of
64 bits becomes the float that it is read as (`isNearest_ofInt`), so that numbers are equal as
floats exactly if they are read as one binary fraction (`beq_iff_readAlike`).
-/

namespace Mailroom.Number

open Float.Model Float.Model.UnpackedFloat

/-! ## Integers -/

/-- A natural number with few digits gets as many zeros as it takes to fill the format. -/
theorem exists_round {n : ℕ} (hpos : 0 < n) (h : n < 2 ^ 53) :
    ∃ b : Binary, IsUnpacked .positive b (UnpackedFloat.round .binary64 .positive n 0) ∧
      b.StandsFor n ∧ 2 ^ 52 ≤ b.digits ∧ b.exponent ≤ 1 := by
  have hlog : n.log2 < 53 := (Nat.log2_lt hpos.ne').mpr h
  obtain ⟨j, hj⟩ := Nat.exists_eq_add_of_le (Nat.lt_succ_iff.mp hlog)
  obtain ⟨hlower, hupper⟩ := (Nat.log2_eq_iff hpos.ne').mp (rfl : n.log2 = n.log2)
  have hfilled : (n <<< j).log2 = 52 := by
    rw [Nat.shiftLeft_eq, Nat.log2_eq_iff (by positivity), hj,
      show n.log2 + j + 1 = n.log2 + 1 + j by omega, pow_add, pow_add 2 (n.log2 + 1)]
    exact ⟨Nat.mul_le_mul_right _ hlower, Nat.mul_lt_mul_of_pos_right hupper (Nat.pow_pos two_pos)⟩
  have htarget : (0 - Format.binary64.targetExponent (totalExponent n 0)).toNat = j := by
    have hbits : ((Format.binary64.mantissaBits : ℕ) : ℤ) = 53 := rfl
    have hleast : Format.binary64.minExponent = -1074 := rfl
    rw [Format.targetExponent, totalExponent, hbits, hleast]
    omega
  have hne : n <<< j ≠ 0 := by rw [Nat.shiftLeft_eq]; positivity
  obtain ⟨b, hb, hstands, hfull, hexponent⟩ := exists_roundWithAccuracy .positive (m := n <<< j)
    (e := 0 - j) ((Nat.log2_eq_iff hne).mp hfilled).1 (by omega)
  refine ⟨b, ?_, ?_, hfull, by omega⟩
  · rw [UnpackedFloat.round, decreaseExponent, htarget]
    exact hb
  · have hy : ((n <<< j : ℕ) : ℚ) * 2 ^ (0 - j : ℤ) = n := by
      rw [Nat.shiftLeft_eq, zero_sub, zpow_neg, zpow_natCast]
      push_cast
      exact mul_inv_cancel_right₀ (by positivity) _
    rwa [hy] at hstands

/-- One, in as many digits as the format has. -/
def unpackedOne : UnpackedFloat := .finite .positive (2 ^ 52) (-52) (Nat.pow_pos two_pos)

theorem isUnpacked_mul_one {b : Binary} {u : UnpackedFloat} (h : IsUnpacked .positive b u)
    (hfull : 2 ^ 52 ≤ b.digits) :
    IsUnpacked .positive b (UnpackedFloat.mul .binary64 u unpackedOne) := by
  cases h with
  | zero hzero => omega
  | finite hdigits hexponent hpos =>
    subst hdigits hexponent
    have hlog : (b.digits * 2 ^ 52).log2 = 104 := by
      rw [Nat.log2_eq_iff (by positivity)]
      have hlt := b.digits_lt
      omega
    have hleast := b.le_exponent
    obtain ⟨c, hc, hstands, -, -⟩ := exists_roundWithAccuracy .positive (m := b.digits * 2 ^ 52)
      (e := b.exponent + -52) (by omega) (by omega)
    have hvalue : ((b.digits * 2 ^ 52 : ℕ) : ℚ) * 2 ^ (b.exponent + -52) = b.value := by
      rw [Binary.value, Binary.unit, zpow_add₀ two_ne_zero]
      push_cast
      norm_num
      ring
    rw [hvalue] at hstands
    obtain rfl := hstands.unique b.standsFor_value
    exact hc

theorem unpack_one : (Float.exactlyRepresentablePowersOfTen[0]).toModel.unpack = unpackedOne := rfl

theorem ofNat_eq (n : ℕ) : Float.ofNat n =
    if n < 2 ^ 53 then n.toUInt64.toFloat * Float.exactlyRepresentablePowersOfTen[0]
    else .ofModel (.ofScientific n 0) := by
  change Float.ofScientific n false 0 = _
  rw [Float.ofScientific]
  by_cases h : n < 2 ^ 53
  · rw [dif_pos ⟨h, by decide⟩, if_pos h]
    rfl
  · rw [dif_neg (fun hfast ↦ h hfast.1), if_neg h]
    rfl

theorem unpack_ofNat_zero : (Float.ofNat 0).toModel.unpack = .zero .positive := rfl

/-- Few digits are kept as they are. -/
theorem exists_ofNat_few {n : ℕ} (hpos : 0 < n) (h : n < 2 ^ 53) :
    ∃ b : Binary, IsUnpacked .positive b (Float.ofNat n).toModel.unpack ∧ b.StandsFor n ∧
      b.exponent ≤ 13 := by
  obtain ⟨b, hb, hstands, hfull, hexponent⟩ := exists_round hpos h
  have hword : n.toUInt64.toNat = n := by
    rw [Nat.toUInt64, UInt64.toNat_ofNat']
    exact Nat.mod_eq_of_lt (by omega)
  have hcompare : compare (n : ℤ) 0 = .gt := Int.compare_eq_gt.mpr (by omega)
  have hfloat : IsUnpacked .positive b n.toUInt64.toFloat.toModel.unpack := by
    refine isUnpacked_pack ?_ (by omega)
    rw [UnpackedFloat.ofUInt64, hword, UnpackedFloat.ofNat, UnpackedFloat.ofInt,
      UnpackedFloat.normalize, hcompare]
    exact hb
  have hmul := isUnpacked_mul_one hfloat hfull
  rw [← unpack_one] at hmul
  rw [ofNat_eq, if_pos h]
  exact ⟨b, isUnpacked_pack hmul (by omega), hstands, by omega⟩

/-- Of many digits those that do not fit are rounded. -/
theorem exists_ofNat_many {n : ℕ} (hmany : 2 ^ 53 ≤ n) (h : n < 2 ^ 64) :
    ∃ b : Binary, IsUnpacked .positive b (Float.ofNat n).toModel.unpack ∧ b.StandsFor n ∧
      b.exponent ≤ 13 := by
  have hne : n ≠ 0 := by omega
  have hlog : n.log2 < 64 := (Nat.log2_lt hne).mpr h
  have hne' : n <<< 53 * 1 ≠ 0 := by rw [Nat.shiftLeft_eq]; positivity
  have hlog' : (n <<< 53 * 1).log2 = n.log2 + 53 := by
    obtain ⟨hlower, hupper⟩ := (Nat.log2_eq_iff hne).mp (rfl : n.log2 = n.log2)
    rw [Nat.log2_eq_iff hne', Nat.shiftLeft_eq, mul_one, pow_add,
      show n.log2 + 53 + 1 = n.log2 + 1 + 53 by omega, pow_add 2 (n.log2 + 1)]
    exact ⟨Nat.mul_le_mul_right _ hlower, Nat.mul_lt_mul_of_pos_right hupper (Nat.pow_pos two_pos)⟩
  obtain ⟨b, hb, hstands, -, hexponent⟩ := exists_roundWithAccuracy .positive (m := n <<< 53 * 1)
    (e := -53 + 0) ((Nat.le_log2 hne').mp (by omega)) (by omega)
  have hvalue : ((n <<< 53 * 1 : ℕ) : ℚ) * 2 ^ (-53 + 0 : ℤ) = n := by
    rw [Nat.shiftLeft_eq, mul_one, add_zero, zpow_neg]
    push_cast
    exact mul_inv_cancel_right₀ (by positivity) _
  rw [hvalue] at hstands
  refine ⟨b, ?_, hstands, by omega⟩
  rw [ofNat_eq, if_neg (not_lt.mpr hmany)]
  refine isUnpacked_pack ?_ (by omega)
  have hbits : Format.binary64.mantissaBits = 53 := rfl
  have hone : 10 ^ (0 : ℤ).toNat = 1 := rfl
  have hsafe : ¬(0 : ℤ) < -((2 ^ Format.binary64.exponentBits : ℤ) + n.log2) := by
    have hpow : (0 : ℤ) < 2 ^ Format.binary64.exponentBits := by decide
    omega
  rw [UnpackedFloat.ofScientific, dif_neg hne, if_neg (by decide), if_neg hsafe,
    if_pos (by decide), UnpackedFloat.mul]
  simp only [hbits, hone]
  exact hb

theorem exists_ofNat {n : ℕ} (h : n < 2 ^ 64) :
    ∃ b : Binary, IsUnpacked .positive b (Float.ofNat n).toModel.unpack ∧ b.StandsFor n ∧
      b.exponent ≤ 13 := by
  obtain rfl | hpos := n.eq_zero_or_pos
  · let b : Binary := ⟨0, -1074, by norm_num, le_rfl, .inr rfl⟩
    have hvalue : b.value = (0 : ℕ) := by simp [b, Binary.value]
    rw [unpack_ofNat_zero, ← hvalue]
    exact ⟨b, .zero rfl, b.standsFor_value, by decide⟩
  · obtain hfew | hmany := lt_or_ge n (2 ^ 53)
    · exact exists_ofNat_few hpos hfew
    · exact exists_ofNat_many hmany h

/-! ## Signs -/

/-- One, or minus one. -/
def factor : Sign → ℚ
  | .positive => 1
  | .negative => -1

@[simp] theorem factor_neg (s : Sign) : factor (-s) = -factor s := by
  cases s
  · exact (neg_neg 1).symm
  · rfl

@[simp] theorem abs_factor (s : Sign) : |factor s| = 1 := by cases s <;> simp [factor]

/-- The number that a finite float stands for. -/
def value (x : Float) : ℚ :=
  match x.toModel.unpack with
  | .finite s digits exponent _ => factor s * (digits * 2 ^ exponent)
  | _ => 0

theorem IsUnpacked.value_eq {x : Float} {s : Sign} {b : Binary}
    (h : IsUnpacked s b x.toModel.unpack) : value x = factor s * b.value := by
  rw [value]
  generalize x.toModel.unpack = u at h
  cases h with
  | zero hzero => simp [Binary.value, hzero]
  | finite hdigits hexponent hpos =>
    subst hdigits hexponent
    rfl

/-- A finite float is unpacked into its sign and its magnitude. -/
theorem exists_isUnpacked {x : Float} (h : x.isFinite = true) :
    ∃ s, IsUnpacked s (.ofFloat x) x.toModel.unpack := by
  have hdigits : (Binary.ofFloat x).digits = (binaryParts x).1 := rfl
  have hexponent : (Binary.ofFloat x).exponent = (binaryParts x).2 := rfl
  rw [binaryParts_eq] at hdigits hexponent
  change ∃ s, IsUnpacked s (.ofFloat x) (UnpackedFloat.unpack .binary64 (bits x))
  refine ⟨.ofBitVec (unpackSign (bits x)), ?_⟩
  by_cases hzero : unpackExponent (bits x) = 0#11
  · have hnat : (unpackExponent (bits x)).toNat = 0 := congrArg BitVec.toNat hzero
    rw [if_pos hnat] at hdigits hexponent
    obtain ⟨heq, hmantissa⟩ | ⟨hpos, heq⟩ := unpack_of_exponent_eq_zero hzero
    · rw [heq]
      exact .zero (by rw [hdigits, hmantissa]; rfl)
    · rw [heq]
      exact .finite hdigits.symm hexponent.symm hpos
  · have hnat : (unpackExponent (bits x)).toNat ≠ 0 := fun h0 ↦ hzero (BitVec.eq_of_toNat_eq h0)
    rw [if_neg hnat] at hdigits hexponent
    obtain ⟨hpos, heq⟩ := unpack_of_exponent_ne_zero hzero h
    rw [heq]
    exact .finite ((toNat_one_append _).trans hdigits.symm) hexponent.symm hpos

theorem IsUnpacked.neg {s : Sign} {b : Binary} {u : UnpackedFloat} (h : IsUnpacked s b u) :
    IsUnpacked (-s) b u.neg := by
  cases h with
  | zero hzero => exact .zero hzero
  | finite hdigits hexponent hpos => exact .finite hdigits hexponent hpos

/-- Two floats are equal if their magnitudes are and, unless they are zero, their signs. -/
theorem beq_iff_of_isUnpacked {x y : Float} {s t : Sign} {b c : Binary}
    (hx : IsUnpacked s b x.toModel.unpack) (hy : IsUnpacked t c y.toModel.unpack) :
    (x == y) = true ↔ b = c ∧ (b.digits = 0 ∨ s = t) := by
  change (x.toModel.unpack.compare y.toModel.unpack == some .eq) = true ↔ _
  rw [beq_iff_eq]
  generalize x.toModel.unpack = u at hx
  generalize y.toModel.unpack = v at hy
  have hzeros (hb : b.digits = 0) (hc : c.digits = 0) : b = c :=
    Binary.value_injective (by rw [Binary.value, Binary.value, hb, hc]; simp)
  cases hx with
  | zero hb =>
    cases hy with
    | zero hc => simp [UnpackedFloat.compare, hzeros hb hc, hc]
    | finite hdigits hexponent hpos =>
      subst hdigits hexponent
      have hne : b ≠ c := by rintro rfl; omega
      cases t <;> simp [UnpackedFloat.compare, hne]
  | finite hdigits hexponent hpos =>
    subst hdigits hexponent
    cases hy with
    | zero hc =>
      have hne : b ≠ c := by rintro rfl; omega
      cases s <;> simp [UnpackedFloat.compare, hne]
    | finite hdigits hexponent hpos' =>
      subst hdigits hexponent
      have hbc : b = c ↔ b.exponent = c.exponent ∧ b.digits = c.digits := by
        cases b
        cases c
        rw [Binary.mk.injEq, and_comm]
      cases s <;> cases t <;> simp [UnpackedFloat.compare, hbc, hpos.ne']

theorem sign_factor_mul {s t : Sign} {z w : ℚ} (hz : 0 < z) (hw : 0 < w) :
    SignType.sign (factor s * z) = SignType.sign (factor t * w) ↔ s = t := by
  rw [sign_mul, sign_mul, sign_pos hz, sign_pos hw, mul_one, mul_one]
  cases s <;> cases t <;> simp [factor]

/-- Floats are equal if the numbers are that they stand for. -/
theorem beq_iff_value_eq {x y : Float} (hx : x.isFinite = true) (hy : y.isFinite = true) :
    (x == y) = true ↔ value x = value y := by
  obtain ⟨s, hs⟩ := exists_isUnpacked hx
  obtain ⟨t, ht⟩ := exists_isUnpacked hy
  rw [beq_iff_of_isUnpacked hs ht, hs.value_eq, ht.value_eq]
  generalize Binary.ofFloat x = b
  generalize Binary.ofFloat y = c
  constructor
  · rintro ⟨rfl, hzero | rfl⟩
    · simp [Binary.value, hzero]
    · rfl
  · intro h
    have hbc : b = c := by
      have habs := congrArg (|·|) h
      rw [abs_mul, abs_mul, abs_factor, abs_factor, one_mul, one_mul,
        abs_of_nonneg b.value_nonneg, abs_of_nonneg c.value_nonneg] at habs
      exact Binary.value_injective habs
    subst hbc
    refine ⟨rfl, or_iff_not_imp_left.mpr fun hne ↦ ?_⟩
    exact (sign_factor_mul (Binary.value_pos hne) (Binary.value_pos hne)).mp (by rw [h])

/-! ## The float that is nearest -/

/-- A float is the one that a number is read as. -/
def IsNearest (x : Float) (y : ℚ) : Prop :=
  ∃ (s : Sign) (b : Binary) (z : ℚ),
    IsUnpacked s b x.toModel.unpack ∧ b.StandsFor z ∧ 0 ≤ z ∧ y = factor s * z

theorem isNearest_value {x : Float} (h : x.isFinite = true) : IsNearest x (value x) := by
  obtain ⟨s, hs⟩ := exists_isUnpacked h
  exact ⟨s, _, _, hs, Binary.standsFor_value _, Binary.value_nonneg _, hs.value_eq⟩

theorem isNearest_ofInt {i : ℤ} (h : i.natAbs < 2 ^ 64) : IsNearest (Float.ofInt i) i := by
  cases i with
  | ofNat n =>
    obtain ⟨b, hb, hstands, -⟩ := exists_ofNat h
    exact ⟨.positive, b, n, hb, hstands, Nat.cast_nonneg n, (one_mul (n : ℚ)).symm⟩
  | negSucc n =>
    obtain ⟨b, hb, hstands, hexponent⟩ := exists_ofNat h
    refine ⟨.negative, b, n.succ, isUnpacked_pack hb.neg (by omega), hstands,
      Nat.cast_nonneg _, ?_⟩
    rw [factor, Int.cast_negSucc]
    push_cast
    ring

/-- Two numbers are read as one binary fraction: one magnitude is nearest to both, and unless it is
zero they have one sign. -/
def ReadAlike (y z : ℚ) : Prop :=
  ∃ b : Binary, b.StandsFor |y| ∧ b.StandsFor |z| ∧
    (b.digits ≠ 0 → SignType.sign y = SignType.sign z)

theorem IsNearest.readAlike_self {x : Float} {y : ℚ} (h : IsNearest x y) : ReadAlike y y := by
  obtain ⟨s, b, z, -, hb, hz, rfl⟩ := h
  have habs : |factor s * z| = z := by
    rw [abs_mul, abs_factor, one_mul, abs_of_nonneg hz]
  rw [ReadAlike, habs]
  exact ⟨b, hb, hb, fun _ ↦ rfl⟩

theorem beq_iff_readAlike {x x' : Float} {y y' : ℚ} (h : IsNearest x y) (h' : IsNearest x' y') :
    (x == x') = true ↔ ReadAlike y y' := by
  obtain ⟨s, b, z, hx, hb, hz, rfl⟩ := h
  obtain ⟨t, c, w, hy, hc, hw, rfl⟩ := h'
  have habs (s : Sign) {z : ℚ} (hz : 0 ≤ z) : |factor s * z| = z := by
    rw [abs_mul, abs_factor, one_mul, abs_of_nonneg hz]
  rw [beq_iff_of_isUnpacked hx hy, ReadAlike, habs s hz, habs t hw]
  constructor
  · rintro ⟨rfl, hsign⟩
    refine ⟨b, hb, hc, fun hne ↦ ?_⟩
    exact (sign_factor_mul (hb.pos hz hne) (hc.pos hw hne)).mpr (hsign.resolve_left hne)
  · rintro ⟨d, hd, hd', hsign⟩
    obtain rfl := hb.unique hd
    obtain rfl := hc.unique hd'
    refine ⟨rfl, or_iff_not_imp_left.mpr fun hne ↦ ?_⟩
    exact (sign_factor_mul (hb.pos hz hne) (hc.pos hw hne)).mp (hsign hne)

end Mailroom.Number
