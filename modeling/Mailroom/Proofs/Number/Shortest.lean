import Mailroom.Proofs.Number.Binary
import Mailroom.Proofs.Number.Rounding

/-!
# The shortest decimal form of a number

The decimal form that is found for a binary64 number is read as that number. No decimal form with
fewer digits is, and none with as many digits is nearer to it (`isShortest_shortest`). The search
goes from grid to grid. A grid that has any number of the interval has one next to the centre, since
an interval has no gaps, and a grid of seventeen digits is finer than the interval is wide.
-/

namespace Mailroom.Number

variable {n k : ℕ}

/-! ## Lengths -/

theorem decimalLength_le_iff : decimalLength n ≤ k ↔ n < 10 ^ k := by
  induction k generalizing n with
  | zero =>
    rw [decimalLength, pow_zero, Nat.lt_one_iff]
    split_ifs with h
    · simp [h]
    · simp [h]
  | succ k ih =>
    rw [decimalLength]
    split_ifs with h
    · simp [h]
    · rw [Nat.add_le_add_iff_right, ih, Nat.div_lt_iff_lt_mul (by decide), pow_succ]

theorem lt_pow_decimalLength (n : ℕ) : n < 10 ^ decimalLength n := decimalLength_le_iff.mp le_rfl

theorem pow_le_of_lt_decimalLength (h : k < decimalLength n) : 10 ^ k ≤ n :=
  not_lt.mp (mt decimalLength_le_iff.mpr (not_le.mpr h))

namespace Decimal

variable {d : Decimal}

theorem value_stripZeros (fuel : ℕ) (d : Decimal) : (stripZeros fuel d).value = d.value := by
  induction fuel generalizing d with
  | zero => rfl
  | succ fuel ih =>
    rw [stripZeros]
    split_ifs with h
    · have hdigits : (d.digits : ℚ) = (d.digits / 10 : ℕ) * 10 := by
        exact_mod_cast (Nat.div_mul_cancel (Nat.dvd_of_mod_eq_zero h.2)).symm
      rw [ih, value, value, hdigits, zpow_add₀ (by norm_num), zpow_one]
      ring
    · rfl

theorem digits_stripZeros_le (fuel : ℕ) (d : Decimal) : (stripZeros fuel d).digits ≤ d.digits := by
  induction fuel generalizing d with
  | zero => exact le_rfl
  | succ fuel ih =>
    rw [stripZeros]
    split_ifs with h
    · exact (ih _).trans (Nat.div_le_self _ _)
    · exact le_rfl

theorem value_normalize (d : Decimal) : d.normalize.value = d.value := value_stripZeros _ d

/-- A power of ten loses its zeros, so that one digit more than there is room for does no harm. -/
theorem decimalLength_normalize_le (hk : 0 < k) (h : d.digits ≤ 10 ^ k) :
    decimalLength d.normalize.digits ≤ k := by
  rw [decimalLength_le_iff]
  obtain hlt | heq := h.lt_or_eq
  · exact (digits_stripZeros_le _ d).trans_lt hlt
  · obtain ⟨fuel, hfuel⟩ : ∃ fuel, decimalLength d.digits = fuel + 1 := by
      refine Nat.exists_eq_add_one.mpr (Nat.pos_of_ne_zero fun hzero ↦ ?_)
      have hlt := lt_pow_decimalLength d.digits
      rw [hzero, heq, pow_zero] at hlt
      exact absurd (Nat.pow_pos (by decide)) (Nat.lt_one_iff.mp hlt).not_gt
    have hdvd : d.digits % 10 = 0 := by
      rw [heq]
      exact Nat.mod_eq_zero_of_dvd (dvd_pow_self 10 hk.ne')
    have hne : d.digits ≠ 0 := heq ▸ (Nat.pow_pos (by decide)).ne'
    rw [normalize, hfuel, stripZeros, if_pos ⟨hne, hdvd⟩]
    refine (digits_stripZeros_le _ _).trans_lt ?_
    dsimp only
    omega

end Decimal

/-! ## Intervals -/

namespace Rounding

variable {r : Rounding} {y z : ℚ} {e : ℤ}

/-- An interval with a positive number in its interior. -/
structure Sound (r : Rounding) : Prop where
  denominator_pos : 0 < r.denominator
  value_pos : 0 < r.value
  low_lt : r.low < r.center
  lt_high : r.center < r.high

theorem Holds.of_le_center (h : r.Holds y) (hr : r.Sound) (hy : y ≤ z) (hz : z ≤ r.center) :
    r.Holds z :=
  ⟨h.1.trans hy, hz.trans hr.lt_high.le, fun hopen ↦
    ⟨(h.2.2 hopen).1.trans_le hy, hz.trans_lt hr.lt_high⟩⟩

theorem Holds.of_center_le (h : r.Holds y) (hr : r.Sound) (hz : r.center ≤ z) (hy : z ≤ y) :
    r.Holds z :=
  ⟨hr.low_lt.le.trans hz, hy.trans h.2.1, fun hopen ↦
    ⟨hr.low_lt.trans_le hz, hy.trans_lt (h.2.2 hopen).2⟩⟩

theorem holds_of_lt (hlow : r.low < y) (hhigh : y < r.high) : r.Holds y :=
  ⟨hlow.le, hhigh.le, fun _ ↦ ⟨hlow, hhigh⟩⟩

/-! ## Grids -/

/-- A power of ten as a fraction. -/
theorem ten_zpow_eq (e : ℤ) :
    (10 : ℚ) ^ e = ((Nat.pow 10 e.toNat : ℕ) : ℚ) / (Nat.pow 10 (-e).toNat : ℕ) := by
  change (10 : ℚ) ^ e = ((10 ^ e.toNat : ℕ) : ℚ) / (10 ^ (-e).toNat : ℕ)
  obtain ⟨k, rfl | rfl⟩ := e.eq_nat_or_neg
  · simp
  · simp

/-- The centre as a fraction of points of a grid: its numerator. -/
def numeratorOn (r : Rounding) (e : ℤ) : ℕ := r.value * Nat.pow 10 (-e).toNat

/-- The centre as a fraction of points of a grid: its denominator. -/
def denominatorOn (r : Rounding) (e : ℤ) : ℕ := r.denominator * Nat.pow 10 e.toNat

/-- The number of the last point of a grid that is not above the centre. -/
def floorOn (r : Rounding) (e : ℤ) : ℕ := r.numeratorOn e / r.denominatorOn e

/-- What is left over of the centre, above the last point that is not above it. -/
def restOn (r : Rounding) (e : ℤ) : ℕ := r.numeratorOn e % r.denominatorOn e

theorem grid_pos (e : ℤ) : (0 : ℚ) < 10 ^ e := zpow_pos (by norm_num) e

theorem Sound.denominatorOn_pos (hr : r.Sound) (e : ℤ) : 0 < r.denominatorOn e :=
  Nat.mul_pos hr.denominator_pos (Nat.pow_pos (by decide))

theorem Sound.center_eq (hr : r.Sound) (e : ℤ) :
    r.center = (r.floorOn e + (r.restOn e : ℚ) / r.denominatorOn e) * 10 ^ e := by
  have hdenominator : (r.denominator : ℚ) ≠ 0 := by exact_mod_cast hr.denominator_pos.ne'
  have hup : ((Nat.pow 10 e.toNat : ℕ) : ℚ) ≠ 0 := by
    exact_mod_cast (Nat.pow_pos (n := e.toNat) (show 0 < 10 by decide)).ne'
  have hdown : ((Nat.pow 10 (-e).toNat : ℕ) : ℚ) ≠ 0 := by
    exact_mod_cast (Nat.pow_pos (n := (-e).toNat) (show 0 < 10 by decide)).ne'
  rw [floorOn, restOn, ← natCast_div_eq _ (hr.denominatorOn_pos e), ten_zpow_eq, center,
    numeratorOn, denominatorOn, Nat.cast_mul, Nat.cast_mul]
  field_simp

theorem Sound.floorOn_le (hr : r.Sound) (e : ℤ) : r.floorOn e * 10 ^ e ≤ r.center := by
  rw [hr.center_eq e]
  refine mul_le_mul_of_nonneg_right ?_ (grid_pos e).le
  exact le_add_of_nonneg_right (div_nonneg (Nat.cast_nonneg _) (Nat.cast_nonneg _))

theorem Sound.lt_floorOn_add_one (hr : r.Sound) (e : ℤ) :
    r.center < (r.floorOn e + 1 : ℕ) * 10 ^ e := by
  have hden : (0 : ℚ) < r.denominatorOn e := by exact_mod_cast hr.denominatorOn_pos e
  have hrest : (r.restOn e : ℚ) / r.denominatorOn e < 1 := by
    rw [div_lt_one hden]
    exact_mod_cast Nat.mod_lt _ (hr.denominatorOn_pos e)
  rw [hr.center_eq e]
  push_cast
  exact mul_lt_mul_of_pos_right (by linarith) (grid_pos e)

/-- What is left over tells which of the two neighbours is nearer. -/
theorem Sound.sub_sub_eq (hr : r.Sound) (e : ℤ) :
    (r.floorOn e + 1 : ℕ) * 10 ^ e - r.center - (r.center - r.floorOn e * 10 ^ e) =
      ((r.denominatorOn e : ℚ) - (2 * r.restOn e : ℕ)) * (10 ^ e / r.denominatorOn e) := by
  have hden : (r.denominatorOn e : ℚ) ≠ 0 := by exact_mod_cast (hr.denominatorOn_pos e).ne'
  rw [hr.center_eq e]
  push_cast
  field_simp
  ring

theorem Sound.floorOn_nearer (hr : r.Sound) (h : 2 * r.restOn e ≤ r.denominatorOn e) :
    r.center - r.floorOn e * 10 ^ e ≤ (r.floorOn e + 1 : ℕ) * 10 ^ e - r.center := by
  have hdiff : (0 : ℚ) ≤ (r.denominatorOn e : ℚ) - (2 * r.restOn e : ℕ) :=
    sub_nonneg.mpr (by exact_mod_cast h)
  have hgrid : (0 : ℚ) ≤ 10 ^ e / r.denominatorOn e :=
    div_nonneg (grid_pos e).le (Nat.cast_nonneg _)
  exact sub_nonneg.mp ((mul_nonneg hdiff hgrid).trans_eq (hr.sub_sub_eq e).symm)

theorem Sound.next_nearer (hr : r.Sound) (h : r.denominatorOn e ≤ 2 * r.restOn e) :
    (r.floorOn e + 1 : ℕ) * 10 ^ e - r.center ≤ r.center - r.floorOn e * 10 ^ e := by
  have hdiff : (r.denominatorOn e : ℚ) - (2 * r.restOn e : ℕ) ≤ 0 :=
    sub_nonpos.mpr (by exact_mod_cast h)
  have hgrid : (0 : ℚ) ≤ 10 ^ e / r.denominatorOn e :=
    div_nonneg (grid_pos e).le (Nat.cast_nonneg _)
  exact sub_nonpos.mp ((hr.sub_sub_eq e).trans_le (mul_nonpos_of_nonpos_of_nonneg hdiff hgrid))

theorem contains_grid (hr : r.Sound) (e : ℤ) (k : ℕ) :
    r.contains (k * Nat.pow 10 e.toNat) (Nat.pow 10 (-e).toNat) = true ↔
      r.Holds (k * 10 ^ e) := by
  have hpos : 0 < Nat.pow 10 (-e).toNat := Nat.pow_pos (by decide)
  rw [contains_iff hr.denominator_pos hpos, ten_zpow_eq, Nat.cast_mul, mul_div_assoc]

/-- The two neighbours of the centre, and which of them is taken. -/
theorem neighbour_eq (r : Rounding) (e : ℤ) :
    r.neighbour e =
      if r.contains (r.floorOn e * Nat.pow 10 e.toNat) (Nat.pow 10 (-e).toNat) &&
          r.contains ((r.floorOn e + 1) * Nat.pow 10 e.toNat) (Nat.pow 10 (-e).toNat) then
        some ⟨if 2 * r.restOn e < r.denominatorOn e then r.floorOn e
          else if r.denominatorOn e < 2 * r.restOn e then r.floorOn e + 1
          else r.floorOn e + r.floorOn e % 2, e⟩
      else if r.contains (r.floorOn e * Nat.pow 10 e.toNat) (Nat.pow 10 (-e).toNat) then
        some ⟨r.floorOn e, e⟩
      else if r.contains ((r.floorOn e + 1) * Nat.pow 10 e.toNat) (Nat.pow 10 (-e).toNat) then
        some ⟨r.floorOn e + 1, e⟩
      else none := rfl

/-- A point of a grid that is the best one for a number: it lies in the interval, it is next to the
centre, and no point of the interval is nearer. -/
structure IsBest (r : Rounding) (e : ℤ) (d : Decimal) : Prop where
  exponent_eq : d.exponent = e
  digits_le : d.digits ≤ r.floorOn e + 1
  holds : r.Holds d.value
  nearest : ∀ k : ℕ, r.Holds (k * 10 ^ e) → |d.value - r.center| ≤ |k * 10 ^ e - r.center|

/-- No point of the grid is nearer than the neighbour at its side of the centre. -/
theorem Sound.neighbours (hr : r.Sound) (e : ℤ) (h : r.Holds (k * 10 ^ e)) :
    r.Holds (r.floorOn e * 10 ^ e) ∧
        |r.floorOn e * 10 ^ e - r.center| ≤ |k * 10 ^ e - r.center| ∨
      r.Holds ((r.floorOn e + 1 : ℕ) * 10 ^ e) ∧
        |(r.floorOn e + 1 : ℕ) * 10 ^ e - r.center| ≤ |k * 10 ^ e - r.center| := by
  have hfloor := hr.floorOn_le e
  have hnext := hr.lt_floorOn_add_one e
  obtain hle | hlt := Nat.lt_or_ge (r.floorOn e) k
  · have hk : ((r.floorOn e + 1 : ℕ) : ℚ) * 10 ^ e ≤ k * 10 ^ e :=
      mul_le_mul_of_nonneg_right (by exact_mod_cast hle) (grid_pos e).le
    refine .inr ⟨h.of_center_le hr hnext.le hk, ?_⟩
    rw [abs_of_nonneg (by linarith), abs_of_nonneg (by linarith)]
    linarith
  · have hk : (k : ℚ) * 10 ^ e ≤ r.floorOn e * 10 ^ e :=
      mul_le_mul_of_nonneg_right (by exact_mod_cast hlt) (grid_pos e).le
    refine .inl ⟨h.of_le_center hr hk hfloor, ?_⟩
    rw [abs_of_nonpos (by linarith), abs_of_nonpos (by linarith)]
    linarith

theorem neighbour_eq_none (hr : r.Sound) (h : r.neighbour e = none) (k : ℕ) :
    ¬ r.Holds (k * 10 ^ e) := by
  intro hk
  have hside := hr.neighbours e hk
  rw [neighbour_eq] at h
  rw [← contains_grid hr, ← contains_grid hr] at hside
  split_ifs at h with hboth hlow hhigh
  obtain ⟨hl, -⟩ | ⟨hh, -⟩ := hside
  · exact hlow hl
  · exact hhigh hh

/-- One of the two neighbours is the best point if the other one is not better. -/
theorem Sound.isBest (hr : r.Sound) {j : ℕ} (hj : j = r.floorOn e ∨ j = r.floorOn e + 1)
    (hholds : r.Holds (j * 10 ^ e))
    (hfloor : r.Holds (r.floorOn e * 10 ^ e) →
      |j * 10 ^ e - r.center| ≤ |r.floorOn e * 10 ^ e - r.center|)
    (hnext : r.Holds ((r.floorOn e + 1 : ℕ) * 10 ^ e) →
      |j * 10 ^ e - r.center| ≤ |(r.floorOn e + 1 : ℕ) * 10 ^ e - r.center|) :
    r.IsBest e ⟨j, e⟩ where
  exponent_eq := rfl
  digits_le := by
    dsimp only
    omega
  holds := hholds
  nearest k hk := by
    obtain ⟨hl, hle⟩ | ⟨hh, hle⟩ := hr.neighbours e hk
    · exact (hfloor hl).trans hle
    · exact (hnext hh).trans hle

theorem neighbour_isBest (hr : r.Sound) {d : Decimal} (h : r.neighbour e = some d) :
    r.IsBest e d := by
  have hfloor := hr.floorOn_le e
  have hnext := hr.lt_floorOn_add_one e
  have hlow := contains_grid hr e (r.floorOn e)
  have hhigh := contains_grid hr e (r.floorOn e + 1)
  have habsLow : |r.floorOn e * 10 ^ e - r.center| = r.center - r.floorOn e * 10 ^ e := by
    rw [abs_sub_comm, abs_of_nonneg (by linarith)]
  have habsHigh : |(r.floorOn e + 1 : ℕ) * 10 ^ e - r.center| =
      (r.floorOn e + 1 : ℕ) * 10 ^ e - r.center := abs_of_nonneg (by linarith)
  have htakeLow (hl : r.Holds (r.floorOn e * 10 ^ e))
      (hle : r.Holds ((r.floorOn e + 1 : ℕ) * 10 ^ e) → 2 * r.restOn e ≤ r.denominatorOn e) :
      r.IsBest e ⟨r.floorOn e, e⟩ := by
    refine hr.isBest (.inl rfl) hl (fun _ ↦ le_rfl) fun hh ↦ ?_
    rw [habsLow, habsHigh]
    exact hr.floorOn_nearer (hle hh)
  have htakeHigh (hh : r.Holds ((r.floorOn e + 1 : ℕ) * 10 ^ e))
      (hle : r.Holds (r.floorOn e * 10 ^ e) → r.denominatorOn e ≤ 2 * r.restOn e) :
      r.IsBest e ⟨r.floorOn e + 1, e⟩ := by
    refine hr.isBest (.inr rfl) hh (fun hl ↦ ?_) fun _ ↦ le_rfl
    rw [habsLow, habsHigh]
    exact hr.next_nearer (hle hl)
  rw [← hlow, ← hhigh] at htakeLow htakeHigh
  rw [neighbour_eq] at h
  split_ifs at h with hboth hless hmore honly honly'
  all_goals rw [← Option.some.inj h]
  all_goals rw [Bool.and_eq_true] at hboth
  · exact htakeLow hboth.1 fun _ ↦ hless.le
  · exact htakeHigh hboth.2 fun _ ↦ hmore.le
  -- A centre half-way between two points goes to the even one.
  · obtain heven | hodd := Nat.mod_two_eq_zero_or_one (r.floorOn e)
    · rw [heven, Nat.add_zero]
      exact htakeLow hboth.1 fun _ ↦ not_lt.mp hmore
    · rw [hodd]
      exact htakeHigh hboth.2 fun _ ↦ not_lt.mp hless
  · exact htakeLow honly fun hh ↦ absurd ⟨honly, hh⟩ hboth
  · exact htakeHigh honly' fun hl ↦ absurd hl honly

/-! ## The first digit -/

theorem exists_decimalLength_eq (h : n ≠ 0) :
    ∃ l, decimalLength n = l + 1 ∧ 10 ^ l ≤ n ∧ n < 10 ^ (l + 1) := by
  have hpos : decimalLength n ≠ 0 := by
    intro hzero
    have hlt := lt_pow_decimalLength n
    rw [hzero, pow_zero, Nat.lt_one_iff] at hlt
    exact h hlt
  obtain ⟨l, hl⟩ := Nat.exists_eq_add_one_of_ne_zero hpos
  exact ⟨l, hl, pow_le_of_lt_decimalLength (by omega), hl ▸ lt_pow_decimalLength n⟩

/-- The first digit of a fraction that is not less than one. -/
theorem exists_decimalLength_div_eq {d : ℕ} (hd : 0 < d) (h : d ≤ n) :
    ∃ l, decimalLength (n / d) = l + 1 ∧ 10 ^ l * d ≤ n ∧ n < 10 ^ (l + 1) * d := by
  obtain ⟨l, hl, hlow, hhigh⟩ := exists_decimalLength_eq (Nat.div_pos h hd).ne'
  exact ⟨l, hl, (Nat.mul_le_mul_right _ hlow).trans (Nat.div_mul_le_self _ _),
    (Nat.div_lt_iff_lt_mul hd).mp hhigh⟩

/-- The centre lies between two powers of ten, of which the upper one is found. -/
theorem Sound.magnitude_spec (hr : r.Sound) :
    (10 : ℚ) ^ (r.magnitude - 1) ≤ r.center ∧ r.center < 10 ^ r.magnitude := by
  have hpos := hr.denominator_pos
  have hden : (0 : ℚ) < r.denominator := by exact_mod_cast hpos
  unfold magnitude center
  split_ifs with hle
  · obtain ⟨l, hl, hlower, hupper⟩ := exists_decimalLength_div_eq hpos hle
    rw [hl, Nat.cast_add_one, add_sub_cancel_right, zpow_natCast, ← Nat.cast_add_one,
      zpow_natCast, le_div_iff₀ hden, div_lt_iff₀ hden]
    exact ⟨by exact_mod_cast hlower, by exact_mod_cast hupper⟩
  · obtain ⟨l, hl, hupper, hlower⟩ := exists_decimalLength_div_eq hr.value_pos
      (show r.value ≤ r.denominator - 1 by omega)
    have hlower' : r.denominator ≤ r.value * 10 ^ (l + 1) := by
      rw [Nat.mul_comm]
      omega
    have hupper' : r.value * 10 ^ l < r.denominator := by
      rw [Nat.mul_comm]
      omega
    have hexponent : (1 : ℤ) - (l + 1 : ℕ) = -(l : ℤ) := by push_cast; ring
    have hexponent' : -(l : ℤ) - 1 = -((l + 1 : ℕ) : ℤ) := by push_cast; ring
    have hpow : (0 : ℚ) < 10 ^ l := by positivity
    have hpow' : (0 : ℚ) < 10 ^ (l + 1) := by positivity
    rw [hl, hexponent, hexponent', zpow_neg, zpow_neg, zpow_natCast, zpow_natCast,
      ← one_div, ← one_div, div_le_div_iff₀ hpow' hden, div_lt_div_iff₀ hden hpow, one_mul]
    exact ⟨by exact_mod_cast hlower', by exact_mod_cast hupper'⟩

/-- On the grid of so many digits, the number of a point below the centre has no more digits. -/
theorem Sound.floorOn_lt_pow (hr : r.Sound) (l : ℕ) : r.floorOn (r.magnitude - l) < 10 ^ l := by
  have hcenter := (hr.floorOn_le (r.magnitude - l)).trans_lt hr.magnitude_spec.2
  have hpow : (10 : ℚ) ^ r.magnitude = 10 ^ l * 10 ^ (r.magnitude - l) := by
    rw [← zpow_natCast, ← zpow_add₀ (by norm_num), add_sub_cancel]
  rw [hpow] at hcenter
  exact_mod_cast lt_of_mul_lt_mul_right hcenter (grid_pos _).le

/-! ## The search -/

/-- The search comes to the first grid that has a point, and takes the best one. -/
theorem search_eq_some {fuel length : ℕ} {d : Decimal} (h : r.search fuel length = some d) :
    ∃ l, length ≤ l ∧ r.neighbour (r.magnitude - l) = some d ∧
      ∀ k, length ≤ k → k < l → r.neighbour (r.magnitude - k) = none := by
  induction fuel generalizing length with
  | zero => cases h
  | succ fuel ih =>
    rw [search] at h
    split at h
    · rename_i hfound
      rw [← h]
      exact ⟨length, le_rfl, hfound, fun k hk hlt ↦ absurd hk (by omega)⟩
    · rename_i hnone
      obtain ⟨l, hl, hfound, hbefore⟩ := ih h
      refine ⟨l, by omega, hfound, fun k hk hlt ↦ ?_⟩
      obtain rfl | hlt' := hk.eq_or_lt
      · exact hnone
      · exact hbefore k hlt' hlt

theorem search_eq_none {fuel length : ℕ} (h : r.search fuel length = none) :
    ∀ k, length ≤ k → k < length + fuel → r.neighbour (r.magnitude - k) = none := by
  induction fuel generalizing length with
  | zero =>
    intro k hk hlt
    omega
  | succ fuel ih =>
    rw [search] at h
    split at h
    · cases h
    · rename_i hnone
      intro k hk hlt
      obtain rfl | hlt' := hk.eq_or_lt
      · exact hnone
      · exact ih h k hlt' (by omega)

/-- Whatever lies in the interval and has few digits is met on the grid of so many digits, or
something nearer to the centre is. -/
theorem Sound.exists_on_grid (hr : r.Sound) (hk : 0 < k) {d : Decimal} (h : r.Holds d.value)
    (hd : decimalLength d.digits ≤ k) :
    ∃ j : ℕ, r.Holds (j * 10 ^ (r.magnitude - k)) ∧
      |j * 10 ^ (r.magnitude - k) - r.center| ≤ |d.value - r.center| := by
  obtain hle | hlt := le_or_gt (r.magnitude - k) d.exponent
  · obtain ⟨i, hi⟩ := Int.exists_add_of_le hle
    have hvalue : ((d.digits * 10 ^ i : ℕ) : ℚ) * 10 ^ (r.magnitude - k) = d.value := by
      rw [Decimal.value, hi, zpow_add₀ (by norm_num), zpow_natCast]
      push_cast
      ring
    exact ⟨d.digits * 10 ^ i, hvalue ▸ h, (congrArg (|· - r.center|) hvalue).le⟩
  · have hpower : ((10 ^ (k - 1) : ℕ) : ℚ) * 10 ^ (r.magnitude - k) = 10 ^ (r.magnitude - 1) := by
      push_cast
      rw [← zpow_natCast, ← zpow_add₀ (by norm_num)]
      congr 1
      omega
    have hdigits : (d.digits : ℚ) ≤ 10 ^ k := by
      exact_mod_cast (decimalLength_le_iff.mp hd).le
    have hbelow : d.value ≤ 10 ^ (r.magnitude - 1) := by
      calc d.value
          ≤ 10 ^ k * 10 ^ d.exponent := mul_le_mul_of_nonneg_right hdigits (grid_pos _).le
        _ = 10 ^ (k + d.exponent) := by rw [zpow_add₀ (by norm_num), zpow_natCast]
        _ ≤ 10 ^ (r.magnitude - 1) := zpow_le_zpow_right₀ (by norm_num) (by omega)
    have hcenter := hr.magnitude_spec.1
    refine ⟨10 ^ (k - 1), ?_, ?_⟩
    · rw [hpower]
      exact h.of_le_center hr hbelow hcenter
    · rw [hpower, abs_of_nonpos (by linarith), abs_of_nonpos (by linarith)]
      linarith

end Rounding

/-! ## Seventeen digits -/

namespace Binary

variable {b : Binary}

theorem interval_sound (hne : b.digits ≠ 0) : b.interval.Sound where
  denominator_pos := b.interval_denominator_pos
  value_pos := by
    have hpos : 0 < 4 * b.digits := by omega
    exact Nat.mul_pos hpos (Nat.pow_pos two_pos)
  low_lt := by
    rw [interval_low hne, b.interval_center]
    linarith [mul_pos b.step_pos b.unit_pos]
  lt_high := by
    rw [b.interval_high, b.interval_center]
    linarith [b.unit_pos]

/-- The interval is wider than the distance between numbers of seventeen digits. -/
theorem wide (hne : b.digits ≠ 0) : b.value / 10 ^ 16 < b.interval.high - b.interval.low := by
  rw [b.interval_high, interval_low hne, value]
  have hpos := b.unit_pos
  by_cases hpower : b.digits = 2 ^ 52 ∧ b.exponent ≠ -1074
  · rw [step_eq_half hpower, hpower.1]
    push_cast
    linarith
  · have hlt : (b.digits : ℚ) < 2 ^ 53 := by exact_mod_cast b.digits_lt
    have hmul := mul_lt_mul_of_pos_right hlt hpos
    rw [step_eq_one hpower]
    linarith

theorem exists_seventeen (hne : b.digits ≠ 0) :
    ∃ k : ℕ, b.interval.Holds (k * 10 ^ (b.interval.magnitude - (17 : ℕ))) := by
  have hr := interval_sound hne
  by_contra hnone
  push Not at hnone
  have hfloor := hr.floorOn_le (b.interval.magnitude - (17 : ℕ))
  have hnext := hr.lt_floorOn_add_one (b.interval.magnitude - (17 : ℕ))
  have hlow : b.interval.floorOn (b.interval.magnitude - (17 : ℕ)) *
      10 ^ (b.interval.magnitude - (17 : ℕ)) ≤ b.interval.low :=
    not_lt.mp fun hlt ↦ hnone _ (Rounding.holds_of_lt hlt (hfloor.trans_lt hr.lt_high))
  have hhigh : b.interval.high ≤ (b.interval.floorOn (b.interval.magnitude - (17 : ℕ)) + 1 : ℕ) *
      10 ^ (b.interval.magnitude - (17 : ℕ)) :=
    not_lt.mp fun hlt ↦ hnone _ (Rounding.holds_of_lt (hr.low_lt.trans hnext) hlt)
  have hgrid : (10 : ℚ) ^ (b.interval.magnitude - (17 : ℕ)) ≤ b.value / 10 ^ 16 := by
    rw [le_div_iff₀ (by norm_num), ← b.interval_center]
    refine le_trans (le_of_eq ?_) hr.magnitude_spec.1
    rw [← zpow_natCast, ← zpow_add₀ (by norm_num)]
    congr 1
    push_cast
    ring
  have hwide := wide hne
  push_cast at hhigh hlow hgrid
  linarith

end Binary

/-- A decimal form is read as a number, none with fewer digits is, and none with as many digits is
nearer to it. -/
structure IsShortest (b : Binary) (d : Decimal) : Prop where
  standsFor : b.StandsFor d.value
  least : ∀ d' : Decimal, b.StandsFor d'.value →
    decimalLength d.digits ≤ decimalLength d'.digits
  nearest : ∀ d' : Decimal, b.StandsFor d'.value →
    decimalLength d'.digits = decimalLength d.digits → |d.value - b.value| ≤ |d'.value - b.value|

namespace Binary

variable {b : Binary} {d : Decimal}

theorem isShortest_zero (h : b.digits = 0) : IsShortest b ⟨0, 0⟩ := by
  have hvalue : b.value = 0 := by rw [value, h, Nat.cast_zero, zero_mul]
  have hzero : Decimal.value ⟨0, 0⟩ = 0 := by rw [Decimal.value, Nat.cast_zero, zero_mul]
  have hdist : |Decimal.value ⟨0, 0⟩ - b.value| = 0 := by rw [hzero, hvalue, sub_zero, abs_zero]
  exact {
    standsFor :=
      { nearest := fun c ↦ hdist.trans_le (abs_nonneg _)
        even := fun _ _ _ ↦ h ▸ Even.zero }
    least := fun d' _ ↦ (decimalLength_le_iff.mpr (by simp)).trans (Nat.zero_le _)
    nearest := fun d' _ _ ↦ hdist.trans_le (abs_nonneg _) }

/-- A decimal form that is read as a number other than zero has a digit. -/
theorem StandsFor.length_pos (hne : b.digits ≠ 0) (h : b.StandsFor d.value) :
    0 < decimalLength d.digits := by
  refine Nat.pos_of_ne_zero fun hzero ↦ ?_
  have hdigits : d.digits = 0 := by
    have hlt := lt_pow_decimalLength d.digits
    rwa [hzero, pow_zero, Nat.lt_one_iff] at hlt
  have hvalue : d.value = 0 := by rw [Decimal.value, hdigits, Nat.cast_zero, zero_mul]
  have hpos : 0 < b.value := mul_pos (by exact_mod_cast Nat.pos_of_ne_zero hne) b.unit_pos
  have hlower := (h.within hne).lower
  have hstep := mul_le_mul_of_nonneg_right b.step_le_one b.unit_pos.le
  have hunit : b.unit ≤ b.value :=
    le_mul_of_one_le_left b.unit_pos.le (by exact_mod_cast Nat.pos_of_ne_zero hne)
  linarith

theorem exists_search_eq_some (hne : b.digits ≠ 0) : ∃ d, b.interval.search 17 1 = some d := by
  rw [← Option.isSome_iff_exists, Option.isSome_iff_ne_none]
  intro hnone
  obtain ⟨k, hk⟩ := exists_seventeen hne
  have hseventeen := Rounding.search_eq_none hnone 17 (by decide) (by decide)
  exact Rounding.neighbour_eq_none (interval_sound hne) hseventeen k hk

theorem isShortest_normalize (hne : b.digits ≠ 0) (h : b.interval.search 17 1 = some d) :
    IsShortest b d.normalize := by
  have hr := interval_sound hne
  obtain ⟨l, hl, hfound, hbefore⟩ := Rounding.search_eq_some h
  have hbest := Rounding.neighbour_isBest hr hfound
  have hmet {d' : Decimal} {k : ℕ} (hd' : b.StandsFor d'.value)
      (hk : decimalLength d'.digits ≤ k) (hpos : 0 < k) :=
    hr.exists_on_grid hpos ((holds_iff hne).mpr hd') hk
  have hleast (d' : Decimal) (hd' : b.StandsFor d'.value) : l ≤ decimalLength d'.digits := by
    have hpos := hd'.length_pos hne
    obtain ⟨j, hj, -⟩ := hmet hd' le_rfl hpos
    by_contra hlt
    exact Rounding.neighbour_eq_none hr (hbefore _ hpos (not_le.mp hlt)) j hj
  have hdigits : d.digits ≤ 10 ^ l := hbest.digits_le.trans (hr.floorOn_lt_pow l)
  have hlength := Decimal.decimalLength_normalize_le hl hdigits
  have hstands : b.StandsFor d.normalize.value := by
    rw [Decimal.value_normalize]
    exact (holds_iff hne).mp hbest.holds
  refine ⟨hstands, fun d' hd' ↦ hlength.trans (hleast d' hd'), fun d' hd' heq ↦ ?_⟩
  obtain ⟨j, hj, hle⟩ := hmet hd' (heq.trans_le hlength) hl
  rw [b.interval_center] at hle
  have hnear := hbest.nearest j hj
  rw [b.interval_center] at hnear
  rw [Decimal.value_normalize]
  exact hnear.trans hle

end Binary

theorem shortest_eq (x : Float) : shortest x =
    if (Binary.ofFloat x).digits = 0 then ⟨0, 0⟩
    else match (Binary.ofFloat x).interval.search 17 1 with
      | some d => d.normalize
      | none => ⟨(Binary.ofFloat x).digits * Nat.pow 2 (Binary.ofFloat x).exponent.toNat, 0⟩ := by
  change shortest x =
    if (binaryParts x).1 = 0 then ⟨0, 0⟩
    else match (Rounding.ofParts (binaryParts x).1 (binaryParts x).2).search 17 1 with
      | some d => d.normalize
      | none => ⟨(binaryParts x).1 * Nat.pow 2 (binaryParts x).2.toNat, 0⟩
  unfold shortest
  split
  · rename_i q hparts
    rw [hparts, if_pos rfl]
  · rename_i m q hne hparts
    rw [hparts]
    exact (if_neg hne).symm

/-- Seventeen digits suffice for every number, and no search for a decimal form with as few digits
as possible takes one too many. -/
theorem isShortest_shortest (x : Float) : IsShortest (.ofFloat x) (shortest x) := by
  rw [shortest_eq]
  split_ifs with hzero
  · exact Binary.isShortest_zero hzero
  · obtain ⟨d, hd⟩ := Binary.exists_search_eq_some hzero
    rw [hd]
    exact Binary.isShortest_normalize hzero hd

end Mailroom.Number
