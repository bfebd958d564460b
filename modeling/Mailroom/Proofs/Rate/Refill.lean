import Mailroom.Proofs.Rate.Bucket

/-!
# What a bucket tells about the time to come

Nothing is taken from a bucket, and time passes. The flow into the bucket is counted from the last
taking, so between two instants there flow in the whole units that are seen at both and a part of a
unit that is not seen yet, the phase. Each question about a later instant comes down to one
comparison: the missing units against the flow and the phase (`le_unitsAt_iff_of_le`).

* The wait for a token counts the missing units without the phase, and leaves out a part of a
  millisecond. When the part that is left out outweighs the phase and the rest is a whole number of
  seconds, there is no token yet at the end of the wait; a millisecond later there is one.
* The second at which the bucket is full again is rounded up each time. It does not come too early,
  and nothing but the phase makes it later than the rounding does.
-/

namespace Mailroom.Rate

/-! ## Numbers -/

theorem ceilDiv_le_iff {n d q : Nat} (hd : 0 < d) : ceilDiv n d ≤ q ↔ n ≤ q * d := by
  rw [ceilDiv]
  split
  · rename_i h
    exact Nat.div_le_iff_le_mul_of_dvd hd.ne' (Nat.dvd_of_mod_eq_zero h)
  · rename_i h
    have hne : n ≠ q * d := by
      rintro rfl
      exact h (Nat.mul_mod_left q d)
    rw [Nat.succ_le_iff, Nat.div_lt_iff_lt_mul hd]
    omega

theorem lt_ceilDiv_iff {n d q : Nat} (hd : 0 < d) : q < ceilDiv n d ↔ q * d < n := by
  rw [← Nat.not_le, ceilDiv_le_iff hd, Nat.not_le]

/-- Rounding up adds less than one. -/
theorem ceilDiv_sub_one_mul_lt {n d : Nat} (hd : 0 < d) : ((ceilDiv n d : Int) - 1) * d < n := by
  rcases Nat.eq_zero_or_pos (ceilDiv n d) with hzero | hpos
  · rw [hzero]
    omega
  · have hlt := (lt_ceilDiv_iff hd).mp (Nat.sub_one_lt hpos.ne')
    zify [hpos] at hlt
    exact hlt

theorem word_of_lt {n : Nat} (h : n < 2 ^ 64) : word n = n := Nat.mod_eq_of_lt h

theorem word_eq_iff {n : Nat} : word n = n ↔ n < 2 ^ 64 :=
  ⟨fun h ↦ h.symm.trans_lt (Nat.mod_lt n (by decide)), word_of_lt⟩

theorem signedWord_of_le {n : Int} (h₀ : -2 ^ 63 ≤ n) (h : n < 2 ^ 63) : signedWord n = n :=
  Int.bmod_eq_of_le (by norm_num; omega) (by norm_num; omega)

theorem signedWord_of_lt {n : Int} (h₀ : 0 ≤ n) (h : n < 2 ^ 63) : signedWord n = n :=
  signedWord_of_le (by omega) h

theorem signedWord_lt (n : Int) : signedWord n < 2 ^ 63 := Int.bmod_lt (by decide)

namespace Bucket

variable {b b' : Bucket} {now future : Int}

/-! ## Buckets in order -/

/-- What is known of a bucket that has come about while the clock did not go back, and that is not
too large. -/
structure InOrder (b : Bucket) (now : Int) : Prop where
  capacity_pos : 0 < b.capacity
  window_pos : 0 < b.window
  volume_lt : b.window * b.limit < 2 ^ 62
  units_le : b.units ≤ b.limit
  since_nonneg : 0 ≤ b.since
  since_le : b.since ≤ now

/-- The windowths of a unit that have flowed in beyond the whole units. -/
def phase (b : Bucket) (now : Int) : Nat := (now - b.since).toNat * b.limit % b.window

namespace InOrder

theorem limit_pos (h : b.InOrder now) : 0 < b.limit := Nat.mul_pos h.capacity_pos (by decide)

theorem scale_le (h : b.InOrder now) : scale ≤ b.limit :=
  Nat.le_mul_of_pos_left scale h.capacity_pos

theorem phase_lt (h : b.InOrder now) : b.phase now < b.window := Nat.mod_lt _ h.window_pos

theorem later (h : b.InOrder now) (hle : now ≤ future) : b.InOrder future :=
  { h with since_le := h.since_le.trans hle }

theorem take? (h : b.InOrder now) (ht : b.take? now = some b') : b'.InOrder now where
  capacity_pos := (take?_capacity ht).symm ▸ h.capacity_pos
  window_pos := (take?_window ht).symm ▸ h.window_pos
  volume_lt := by
    rw [take?_window ht, take?_limit ht]
    exact h.volume_lt
  units_le := by
    rw [take?_limit ht]
    exact (Nat.le_add_right _ _).trans (take?_units_le_limit ht)
  since_nonneg := by
    rw [take?_since ht]
    exact h.since_nonneg.trans (le_max_left _ _)
  since_le := by
    rw [take?_since ht]
    exact max_le h.since_le (le_refl now)

theorem tried (h : b.InOrder now) : (b.tried now).InOrder now := by
  rcases b.tried_eq_or now with hsame | htaken
  · rw [hsame]
    exact h
  · exact h.take? htaken

end InOrder

/-! ## The units at an instant -/

/-- There are as many units as have flowed in, whatever bound numbers have, if a bucket is not too
large. -/
theorem unitsAt_eq_of_volume (hwindow : 0 < b.window) (hvolume : b.window * b.limit < 2 ^ 64)
    (now : Int) : b.unitsAt now = min (b.units + b.flow (now - b.since)) b.limit := by
  have hinflow : b.inflow (now - b.since) =
      min (b.flow (now - b.since)) ((Nat.pow 2 64 - 1) / b.window) :=
    Monotone.map_min fun _ _ hle ↦ Nat.div_le_div_right hle
  have hbound : b.limit ≤ (Nat.pow 2 64 - 1) / b.window := by
    rw [Nat.le_div_iff_mul_le hwindow, Nat.mul_comm]
    exact Nat.le_sub_one_of_lt hvolume
  rw [unitsAt, hinflow]
  omega

theorem unitsAt_eq (h : b.InOrder now) :
    b.unitsAt now = min (b.units + b.flow (now - b.since)) b.limit :=
  unitsAt_eq_of_volume h.window_pos (h.volume_lt.trans (by decide)) now

theorem unitsAt_of_since_eq (hunits : b.units ≤ b.limit) (h : b.since = now) :
    b.unitsAt now = b.units := by
  have hflow : b.inflow (now - b.since) = 0 := by
    rw [h, sub_self, ← Nat.le_zero]
    exact (b.inflow_le_flow 0).trans (by simp [flow])
  rw [unitsAt, hflow, Nat.add_zero, min_eq_left hunits]

theorem le_unitsAt_iff (h : b.InOrder now) {n : Nat} (hn : n ≤ b.limit) :
    n ≤ b.unitsAt now ↔ (n - b.units) * b.window ≤ (now - b.since).toNat * b.limit := by
  rw [unitsAt_eq h, le_min_iff, and_iff_left hn, flow, ← Nat.le_div_iff_mul_le h.window_pos,
    Nat.sub_le_iff_le_add']

/-- The flow since the last taking is made of the units that it has brought and the phase. -/
theorem flow_eq_units_add_phase (h : b.InOrder now) (hnot : b.unitsAt now < b.limit) :
    (now - b.since).toNat * b.limit =
      (b.unitsAt now - b.units) * b.window + b.phase now := by
  have hunits : b.unitsAt now = b.units + b.flow (now - b.since) := by
    have heq := unitsAt_eq h
    omega
  rw [hunits, Nat.add_sub_cancel_left, flow, phase, Nat.div_add_mod']

/-- Whether there will be so many units at a later instant: the missing ones stand against the flow
from now on and the phase. -/
theorem le_unitsAt_iff_of_le (h : b.InOrder now) (hle : now ≤ future) {n : Nat}
    (hnot : b.unitsAt now < n) (hn : n ≤ b.limit) :
    n ≤ b.unitsAt future ↔
      (n - b.unitsAt now) * b.window ≤ (future - now).toNat * b.limit + b.phase now := by
  have hunits : b.units ≤ b.unitsAt now := by
    rw [unitsAt_eq h]
    exact le_min (Nat.le_add_right _ _) h.units_le
  have helapsed : (future - b.since).toNat = (future - now).toNat + (now - b.since).toNat := by
    have := h.since_le
    omega
  have hmissing : n - b.units = (n - b.unitsAt now) + (b.unitsAt now - b.units) := by omega
  rw [le_unitsAt_iff (h.later hle) hn, helapsed, Nat.add_mul,
    flow_eq_units_add_phase h (hnot.trans_le hn), hmissing, Nat.add_mul]
  omega

theorem unitsAt_mono (h : b.InOrder now) (hle : now ≤ future) :
    b.unitsAt now ≤ b.unitsAt future := by
  rw [unitsAt_eq h, unitsAt_eq (h.later hle)]
  exact min_le_min_right _ (Nat.add_le_add_left (b.flow_mono (by omega)) _)

/-! ## Waiting for a token -/

theorem take?_isSome_iff : (b.take? now).isSome = true ↔ scale ≤ b.unitsAt now := by
  rw [take?]
  split
  · rename_i h
    simpa using h
  · rename_i h
    simpa using h

theorem take?_eq_none_iff : b.take? now = none ↔ b.unitsAt now < scale := by
  rw [← Option.not_isSome_iff_eq_none, take?_isSome_iff, Nat.not_le]

/-- No product of units and the window is too large if the volume of a bucket is not. -/
theorem mul_window_lt (hvolume : b.window * b.limit < 2 ^ 64) {n : Nat} (hn : n ≤ b.limit) :
    n * b.window < 2 ^ 64 := by
  have hle := Nat.mul_le_mul_right b.window hn
  rw [Nat.mul_comm b.limit] at hle
  omega

theorem retryAfter_eq (hscale : scale ≤ b.limit) (hvolume : b.window * b.limit < 2 ^ 64)
    (hless : b.unitsAt now < scale) :
    b.retryAfter now = max (ceilDiv ((scale - b.unitsAt now) * b.window / b.limit) 1000) 1 := by
  have hlimit : 1 ≤ b.limit := le_trans (by decide) hscale
  rw [retryAfter, if_neg hless.not_ge,
    word_of_lt (mul_window_lt hvolume ((Nat.sub_le _ _).trans hscale)), max_eq_left hlimit]

/-- The wait that is told is long enough for the whole milliseconds in which the missing units flow
in. -/
theorem missing_div_le_wait (h : b.InOrder now) (hnone : b.take? now = none) :
    (scale - b.unitsAt now) * b.window / b.limit ≤ b.retryAfter now * 1000 := by
  rw [retryAfter_eq h.scale_le (h.volume_lt.trans (by decide)) (take?_eq_none_iff.mp hnone),
    ← ceilDiv_le_iff (by decide)]
  exact le_max_left _ _

/-- When a token is refused, whether there is one at the end of the wait that is told hangs on the
phase; at every instant after that there is one. -/
theorem take?_isSome_iff_of_wait (h : b.InOrder now) (hnone : b.take? now = none)
    (hwait : now + 1000 * b.retryAfter now ≤ future) :
    (b.take? future).isSome = true ↔ now + 1000 * b.retryAfter now < future ∨
      (scale - b.unitsAt now) * b.window ≤
        1000 * b.retryAfter now * b.limit + b.phase now := by
  have hmissing := missing_div_le_wait h hnone
  rw [take?_isSome_iff,
    le_unitsAt_iff_of_le h (by omega) (take?_eq_none_iff.mp hnone) h.scale_le]
  rcases hwait.eq_or_lt with rfl | hlt
  · have hend : (now + 1000 * b.retryAfter now - now).toNat = 1000 * b.retryAfter now := by omega
    rw [hend]
    simp
  · have helapsed : b.retryAfter now * 1000 < (future - now).toNat := by omega
    have hflow : (scale - b.unitsAt now) * b.window < (future - now).toNat * b.limit :=
      (Nat.div_lt_iff_lt_mul h.limit_pos).mp (hmissing.trans_lt helapsed)
    simp only [hlt, true_or, iff_true]
    omega

/-! ## Being full again -/

/-- The instant by which the missing units have flowed in, even if nothing has flowed in beyond the
units that are seen. -/
def refilledAt (b : Bucket) (now : Int) : Int :=
  now + ceilDiv ((b.limit - b.unitsAt now) * b.window) b.limit

/-- The second that is told is the one after the missing units have flowed in, if it can be told in
a word. -/
theorem resetAt_eq (hnow : 0 ≤ now) (hlimit : 0 < b.limit) (hvolume : b.window * b.limit < 2 ^ 64)
    (hword : b.refilledAt now + 999 < 2 ^ 63) : b.resetAt now = (b.refilledAt now + 999) / 1000 := by
  rw [refilledAt] at hword ⊢
  have hmillis := signedWord_of_lt
    (n := ceilDiv ((b.limit - b.unitsAt now) * b.window) b.limit) (by omega) (by omega)
  rw [resetAt, word_of_lt (mul_window_lt hvolume (Nat.sub_le _ _)),
    max_eq_left (Nat.succ_le_of_lt hlimit), hmillis, signedWord_of_lt (by omega) (by omega),
    Int.tdiv_eq_ediv_of_nonneg (by omega)]

/-- A bucket is full when the missing units have flowed in. -/
theorem unitsAt_of_refilled (h : b.InOrder now) (hle : b.refilledAt now ≤ future) :
    b.unitsAt future = b.limit := by
  rw [refilledAt] at hle
  have hpast : now ≤ future := by omega
  apply (b.unitsAt_le_limit future).antisymm
  rcases (b.unitsAt_le_limit now).eq_or_lt with hfull | hnot
  · exact hfull.symm.trans_le (unitsAt_mono h hpast)
  · rw [le_unitsAt_iff_of_le h hpast hnot (le_refl _)]
    have hceil : ceilDiv ((b.limit - b.unitsAt now) * b.window) b.limit ≤ (future - now).toNat := by
      omega
    exact ((ceilDiv_le_iff h.limit_pos).mp hceil).trans (Nat.le_add_right _ _)

/-- There is a first instant at which a bucket is full again. Nothing but the phase makes the
missing units seem to take longer than up to that. -/
theorem exists_first_full (h : b.InOrder now) :
    ∃ first, IsLeast {t | now ≤ t ∧ b.unitsAt t = b.limit} first ∧
      (b.refilledAt now - first - 1) * b.limit < b.window := by
  have hlimit := h.limit_pos
  rcases (b.unitsAt_le_limit now).eq_or_lt with hfull | hnot
  · refine ⟨now, ⟨⟨le_refl now, hfull⟩, fun t ht ↦ ht.1⟩, ?_⟩
    have hnone : b.refilledAt now = now := by
      rw [refilledAt, hfull, Nat.sub_self, Nat.zero_mul, ceilDiv, Nat.zero_div, Nat.zero_mod,
        if_pos rfl]
      exact add_zero now
    rw [hnone]
    omega
  · have hfull_iff {t : Int} (ht : now ≤ t) : b.unitsAt t = b.limit ↔
        ceilDiv ((b.limit - b.unitsAt now) * b.window - b.phase now) b.limit ≤ (t - now).toNat := by
      rw [ceilDiv_le_iff hlimit, Nat.sub_le_iff_le_add,
        ← le_unitsAt_iff_of_le h ht hnot (le_refl _)]
      exact ⟨fun heq ↦ heq.ge, fun hle ↦ (b.unitsAt_le_limit t).antisymm hle⟩
    refine ⟨now + ceilDiv ((b.limit - b.unitsAt now) * b.window - b.phase now) b.limit,
      ⟨⟨by omega, (hfull_iff (by omega)).mpr (by omega)⟩, ?_⟩, ?_⟩
    · rintro t ⟨hle, hfull⟩
      have := (hfull_iff hle).mp hfull
      omega
    · have hphase := h.phase_lt
      have hseen := ceilDiv_sub_one_mul_lt (n := (b.limit - b.unitsAt now) * b.window) hlimit
      have hexact := (ceilDiv_le_iff hlimit).mp
        (le_refl (ceilDiv ((b.limit - b.unitsAt now) * b.window - b.phase now) b.limit))
      have hsplit : (b.limit - b.unitsAt now) * b.window ≤
          ceilDiv ((b.limit - b.unitsAt now) * b.window - b.phase now) b.limit * b.limit +
            b.phase now := Nat.le_add_of_sub_le hexact
      rw [refilledAt]
      push_cast at hseen
      zify at hsplit hphase
      linarith

/-- A bucket is full from the second on that is told, and was so no earlier than the phase and the
rounding to seconds allow. -/
theorem resetAt_spec (h : b.InOrder now) (hword : b.refilledAt now + 999 < 2 ^ 63) :
    (∀ t, 1000 * b.resetAt now ≤ t → b.unitsAt t = b.limit) ∧
    ∃ first, IsLeast {t | now ≤ t ∧ b.unitsAt t = b.limit} first ∧
      1000 * b.resetAt now * b.limit < (first + 1000) * b.limit + b.window := by
  rw [resetAt_eq (h.since_nonneg.trans h.since_le) h.limit_pos (h.volume_lt.trans (by decide)) hword]
  constructor
  · intro t ht
    exact unitsAt_of_refilled h (by omega)
  · obtain ⟨first, hfirst, hphase⟩ := exists_first_full h
    refine ⟨first, hfirst, ?_⟩
    have hround : 1000 * ((b.refilledAt now + 999) / 1000) ≤ b.refilledAt now + 999 := by omega
    have hscaled := mul_le_mul_of_nonneg_right hround (Int.natCast_nonneg b.limit)
    linarith

end Bucket

end Mailroom.Rate
