import Mailroom.Proofs.Rate.Refill

/-!
# Why a token is refused

A bucket that is full owes its client all that it can hold and all that flows in from then on. A
token is refused only because so much has been given already: what is owed is accounted for by the
tokens given since the bucket was full for the last time, by the units that are left, and by less
than one unit for each token given, since a taking counts whole units only (`Accounted`). A refusal
does not touch the account, however often a client asks in vain.
-/

namespace Mailroom.Rate.Bucket

variable {b b' : Bucket} {now s : Int} {n : Nat}

/-! ## The flow as far as it can be counted -/

/-- The instants at which the bucket is full, among those at which it is asked for a token. -/
def fullAt (b : Bucket) : List Int → List Int
  | [] => []
  | now :: later =>
    if b.unitsAt now = b.limit then now :: (b.tried now).fullAt later
    else (b.tried now).fullAt later

/-- Whenever the bucket is asked for a token, the product behind the flow since the last taking
fits into a word. -/
def Measured (b : Bucket) (instants : List Int) : Prop :=
  ∀ before now, before ++ [now] <+: instants →
    (now - (b.after before).since).toNat * b.limit < 2 ^ 64

theorem fullAt_append (b : Bucket) (before later : List Int) :
    b.fullAt (before ++ later) = b.fullAt before ++ (b.after before).fullAt later := by
  induction before generalizing b with
  | nil => rfl
  | cons now before ih =>
    rw [List.cons_append, after_cons, fullAt, fullAt, ih]
    split
    · rfl
    · rfl

theorem Measured.before {before later : List Int} (h : b.Measured (before ++ later)) :
    b.Measured before := fun l now hl ↦ h l now (hl.trans (List.prefix_append before later))

/-- It is enough that the product fits for the whole time that has passed since the bucket was
made. -/
theorem measured_of_le {instants : List Int} {e : Int} (hend : ∀ t ∈ instants, t ≤ e)
    (h : (e - b.since).toNat * b.limit < 2 ^ 64) : b.Measured instants := by
  intro before now hasked
  have hnow := hend now (hasked.subset (by simp))
  have hsince := b.since_le_after before
  refine lt_of_le_of_lt (Nat.mul_le_mul_right _ ?_) h
  omega

theorem inflow_eq_flow {elapsed : Int} (h : elapsed.toNat * b.limit < 2 ^ 64) :
    b.inflow elapsed = b.flow elapsed := by
  rw [inflow, flow, min_eq_left]
  exact Nat.le_sub_one_of_lt h

/-- A flow is less than one unit short of what flows in by the exact fraction. -/
theorem lt_flow_add_one_mul (hwindow : 0 < b.window) (elapsed : Int) :
    elapsed.toNat * b.limit < (b.flow elapsed + 1) * b.window :=
  (Nat.div_lt_iff_lt_mul hwindow).mp (Nat.lt_succ_self _)

/-- A bucket that is not full holds less than one unit less than has been left and has flowed in. -/
theorem lt_unitsAt_add_one_mul (hwindow : 0 < b.window)
    (hmeasured : (now - b.since).toNat * b.limit < 2 ^ 64) (hnot : b.unitsAt now < b.limit) :
    b.units * b.window + (now - b.since).toNat * b.limit < (b.unitsAt now + 1) * b.window := by
  have hunits : b.unitsAt now = b.units + b.flow (now - b.since) := by
    rw [unitsAt, inflow_eq_flow hmeasured] at hnot ⊢
    omega
  have hflow := b.lt_flow_add_one_mul hwindow (now - b.since)
  rw [hunits, Nat.add_assoc, Nat.add_mul]
  omega

/-! ## The account of a bucket -/

/-- What a bucket owes since it was full at an instant is accounted for: by the units in it and by
the tokens given, each with one unit more than it has. -/
structure Accounted (b : Bucket) (s : Int) (n : Nat) : Prop where
  le_since : s ≤ b.since
  owed_le : (b.limit : ℤ) * b.window + (b.since - s) * b.limit ≤
    (b.units + (scale + 1) * n) * b.window

namespace Accounted

theorem of_full (hunits : b.units = b.limit) : b.Accounted b.since 0 := by
  refine ⟨le_refl _, ?_⟩
  rw [hunits]
  simp

/-- A new account is opened when a token is taken from a full bucket. -/
theorem opened (ht : b.take? now = some b') (hsince : b.since ≤ now)
    (hfull : b.unitsAt now = b.limit) (hn : 1 ≤ n) : b'.Accounted now n := by
  have hnow : b'.since = now := (take?_since ht).trans (max_eq_right hsince)
  have hunits : b'.limit ≤ b'.units + (scale + 1) * n := by
    rw [take?_limit ht, ← hfull, ← take?_units ht]
    exact Nat.add_le_add_left ((Nat.le_succ scale).trans (Nat.le_mul_of_pos_right _ hn)) _
  refine ⟨hnow.ge, ?_⟩
  rw [hnow, sub_self, zero_mul, add_zero]
  exact_mod_cast Nat.mul_le_mul_right b'.window hunits

/-- A taking from a bucket that is not full leaves out less than one unit. -/
theorem take? (h : b.Accounted s n) (ht : b.take? now = some b') (hsince : b.since ≤ now)
    (hwindow : 0 < b.window) (hmeasured : (now - b.since).toNat * b.limit < 2 ^ 64)
    (hnot : b.unitsAt now < b.limit) : b'.Accounted s (n + 1) := by
  have hnow : b'.since = now := (take?_since ht).trans (max_eq_right hsince)
  refine ⟨hnow ▸ h.le_since.trans hsince, ?_⟩
  have hflow := lt_unitsAt_add_one_mul hwindow hmeasured hnot
  rw [← take?_units ht] at hflow
  zify at hflow
  rw [Int.toNat_of_nonneg (by omega)] at hflow
  have howed := h.owed_le
  rw [hnow, take?_limit ht, take?_window ht]
  push_cast
  linarith

/-- When a token is refused, what is owed is less than one token and what the tokens given come
to. -/
theorem owed_lt (h : b.Accounted s n) (hnone : b.take? now = none) (hsince : b.since ≤ now)
    (hwindow : 0 < b.window) (hscale : scale ≤ b.limit)
    (hmeasured : (now - b.since).toNat * b.limit < 2 ^ 64) :
    (b.limit : ℤ) * b.window + (now - s) * b.limit < (scale + (scale + 1) * n) * b.window := by
  have hless := take?_eq_none_iff.mp hnone
  have hflow := (lt_unitsAt_add_one_mul hwindow hmeasured (hless.trans_le hscale)).trans_le
    (Nat.mul_le_mul_right b.window (Nat.succ_le_of_lt hless))
  zify at hflow
  rw [Int.toNat_of_nonneg (by omega)] at hflow
  have howed := h.owed_le
  linarith

end Accounted

/-! ## Many takings -/

theorem after_window (b : Bucket) (instants : List Int) : (b.after instants).window = b.window := by
  induction instants generalizing b with
  | nil => rfl
  | cons now later ih => rw [after_cons, ih, tried_window]

/-- While the clock does not go back, the last taking is never later than the next asking. -/
theorem after_since_le_next {before later : List Int}
    (hclock : (b.since :: before ++ now :: later).Pairwise (· ≤ ·)) :
    (b.after before).since ≤ now := by
  obtain ⟨-, -, hle⟩ := List.pairwise_append.mp hclock
  apply after_since_le
  · exact hle _ List.mem_cons_self now List.mem_cons_self
  · exact fun t ht ↦ hle t (List.mem_cons_of_mem _ ht) now List.mem_cons_self

/-- Whatever a bucket is asked for while the clock does not go back, what it owes since it was full
for the last time is accounted for. -/
theorem accounted_after (hunits : b.units = b.limit) (hscale : scale ≤ b.limit)
    (hwindow : 0 < b.window) {instants : List Int}
    (hclock : (b.since :: instants).Pairwise (· ≤ ·)) (hmeasured : b.Measured instants) :
    (b.after instants).Accounted ((b.fullAt instants).getLastD b.since)
      ((b.granted instants).filter ((b.fullAt instants).getLastD b.since ≤ ·)).length := by
  induction instants using List.reverseRecOn with
  | nil => exact .of_full hunits
  | append_singleton before now ih =>
    rw [← List.cons_append] at hclock
    have ih := ih (List.pairwise_append.mp hclock).1 hmeasured.before
    have hsince := after_since_le_next hclock
    have hproduct := hmeasured before now (List.prefix_refl _)
    have hlimit := b.after_limit before
    rw [← hlimit] at hproduct hscale
    rw [after_append, fullAt_append, granted_append, after_cons, after_nil, fullAt]
    cases ht : (b.after before).take? now with
    | none =>
      have hnot : (b.after before).unitsAt now ≠ (b.after before).limit :=
        ((take?_eq_none_iff.mp ht).trans_le hscale).ne
      rw [if_neg hnot, tried_of_none ht, granted_of_none ht]
      simpa [fullAt] using ih
    | some b' =>
      rw [tried_of_some ht, granted_of_some ht]
      by_cases hfull : (b.after before).unitsAt now = (b.after before).limit
      · have hlast : (b.fullAt before ++ [now]).getLastD b.since = now := by simp
        rw [if_pos hfull, fullAt, hlast]
        refine .opened ht hsince hfull ?_
        simp
      · have hnot := lt_of_le_of_ne ((b.after before).unitsAt_le_limit now) hfull
        have hnext := ih.take? ht hsince (b.after_window before ▸ hwindow) hproduct hnot
        have hone : [now].filter ((b.fullAt before).getLastD b.since ≤ ·) = [now] := by
          simpa using ih.le_since.trans hsince
        rw [if_neg hfull, fullAt, List.append_nil, granted_nil, List.filter_append, hone,
          List.length_append]
        exact hnext

/-! ## Refusals -/

/-- A taking from a bucket loses less than one unit of what has flowed in. -/
theorem take?_loss_lt (ht : b.take? now = some b') (hsince : b.since ≤ now)
    (hwindow : 0 < b.window) (hmeasured : (now - b.since).toNat * b.limit < 2 ^ 64) :
    min ((b.units : ℚ) + (now - b.since) * b.limit / b.window) b.limit < b'.units + scale + 1 := by
  have htaken := take?_units ht
  rcases (b.unitsAt_le_limit now).eq_or_lt with hfull | hnot
  · have hlimit : (b.limit : ℚ) = b'.units + scale := by
      rw [← hfull, ← htaken]
      exact_mod_cast rfl
    rw [hlimit]
    exact (min_le_right _ _).trans_lt (lt_add_one _)
  · have hflow := lt_unitsAt_add_one_mul hwindow hmeasured hnot
    rw [← htaken] at hflow
    zify at hflow
    rw [Int.toNat_of_nonneg (by omega)] at hflow
    have hpos : (0 : ℚ) < b.window := by exact_mod_cast hwindow
    refine (min_le_left _ _).trans_lt ?_
    rw [← lt_sub_iff_add_lt', div_lt_iff₀ hpos]
    have hflow : (b.units : ℚ) * b.window + (now - b.since) * b.limit <
        (b'.units + scale + 1) * b.window := by exact_mod_cast hflow
    linarith

/-- While the clock does not go back, no client is refused a token without cause. What its bucket
could hold when it was full for the last time, together with all that should have flowed in since
then, is less than one token and a thousandth more than a token for each one given since then. A
refusal loses nothing of it, and a taking less than one unit. -/
theorem lt_of_refused {capacity window : Nat} (hcapacity : 1 ≤ capacity) (hwindow : 1 ≤ window)
    {start last : Int} {instants : List Int}
    (hclock : (start :: instants ++ [last]).Pairwise (· ≤ ·))
    (hmeasured : (full capacity window start).Measured (instants ++ [last]))
    (hrefused : ((full capacity window start).after instants).take? last = none) :
    let b := full capacity window start
    let s := (b.fullAt instants).getLastD start
    (1000 * capacity : ℚ) * (1 + (last - s) / window) <
      1001 * ((b.granted instants).filter (s ≤ ·)).length + 1000 ∧
    ∀ before now, before ++ [now] <+: instants →
      ((b.after before).take? now = none → b.after (before ++ [now]) = b.after before) ∧
      ∀ b', (b.after before).take? now = some b' →
        min (((b.after before).units : ℚ) + (now - (b.after before).since) * b.limit / window)
          b.limit < b'.units + scale + 1 := by
  intro b s
  have hb : b.window = window := max_eq_left hwindow
  have hpos : 0 < b.window := hwindow.trans_eq hb.symm
  have hscale : scale ≤ b.limit := Nat.le_mul_of_pos_left scale hcapacity
  constructor
  · have haccount := accounted_after (b := b) rfl hscale hpos (List.pairwise_append.mp hclock).1
      hmeasured.before
    have hproduct := hmeasured instants last (List.prefix_refl _)
    have howed := haccount.owed_lt hrefused (after_since_le_next (b := b) hclock)
      (by rwa [after_window]) (by rwa [after_limit]) (by rwa [after_limit])
    rw [after_limit, after_window, hb, show b.limit = capacity * 1000 from rfl, scale] at howed
    have hwindow : (0 : ℚ) < window := by exact_mod_cast hwindow
    have howed : (capacity * 1000 * window + (last - s) * (capacity * 1000) : ℚ) <
        (1000 + (1000 + 1) * ((b.granted instants).filter (s ≤ ·)).length) * window := by
      exact_mod_cast howed
    calc (1000 * capacity : ℚ) * (1 + (last - s) / window)
      _ = (capacity * 1000 * window + (last - s) * (capacity * 1000)) / window := by field_simp
      _ < 1000 + (1000 + 1) * ((b.granted instants).filter (s ≤ ·)).length :=
        (div_lt_iff₀ hwindow).mpr howed
      _ = 1001 * ((b.granted instants).filter (s ≤ ·)).length + 1000 := by ring
  · rintro before now ⟨later, rfl⟩
    refine ⟨fun hnone ↦ ?_, fun b' ht ↦ ?_⟩
    · rw [after_append, after_cons, after_nil, tried_of_none hnone]
    · have hproduct := hmeasured.before before now (List.prefix_append _ later)
      rw [List.append_assoc, ← List.cons_append, List.append_assoc, List.cons_append] at hclock
      have hloss := take?_loss_lt ht (after_since_le_next (b := b) hclock) (by rwa [after_window])
        (by rwa [after_limit])
      rwa [after_limit, after_window, hb] at hloss

/-- Two tokens, which flow in within three seconds. A client that asks all the time is refused for
the last time a millisecond before the fourth token is there. -/
theorem lt_of_refused_pair :
    let b := full 2 3000 0
    (b.granted [0, 0, 500, 1000, 1500, 1500] = [0, 0, 1500] ∧
      (b.after [0, 0, 500, 1000, 1500, 1500]).take? 2999 = none) ∧
    (1000 * 2 : ℚ) * (1 + (2999 - 0) / 3000) < 1001 * 3 + 1000 := by
  have hgiven : (full 2 3000 0).granted [0, 0, 500, 1000, 1500, 1500] = [0, 0, 1500] := by decide
  have hfull : (full 2 3000 0).fullAt [0, 0, 500, 1000, 1500, 1500] = [0] := by decide
  have hrefused : ((full 2 3000 0).after [0, 0, 500, 1000, 1500, 1500]).take? 2999 = none := by
    decide
  obtain ⟨hless, -⟩ := lt_of_refused (show 1 ≤ 2 by decide) (show 1 ≤ 3000 by decide) (by decide)
    (measured_of_le (e := 2999) (by decide) (by decide)) hrefused
  rw [hgiven, hfull] at hless
  exact ⟨⟨hgiven, hrefused⟩, by exact_mod_cast hless⟩

end Mailroom.Rate.Bucket
