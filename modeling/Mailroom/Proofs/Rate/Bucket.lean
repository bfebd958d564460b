import Mailroom.Rate.Bucket
import Mathlib.Tactic

/-!
# How many tokens a bucket gives

A bucket is asked for tokens at a list of instants. The law of one taking is that it leaves no more
than what was in the bucket and what has flowed in since the last taking, less one token; summed up
over a list of instants it says that the tokens given and the units that are left come from the
first filling and the flow. Two bounds follow.

* However the clock jumps, no more tokens are given than the bucket can hold and than flow in up to
  the last taking.
* While the clock does not go back, this is so for every interval of time by itself.
-/

namespace Mailroom.Rate.Bucket

variable {b b' : Bucket} {now : Int}

/-! ## Lists of instants -/

/-- The bucket after it has been asked for a token. -/
def tried (b : Bucket) (now : Int) : Bucket := (b.take? now).getD b

/-- The bucket after it has been asked for tokens at some instants. -/
def after (b : Bucket) (instants : List Int) : Bucket := instants.foldl tried b

/-- The instants at which a token is given, among those at which the bucket is asked for one. -/
def granted (b : Bucket) : List Int → List Int
  | [] => []
  | now :: later =>
    if (b.take? now).isSome then now :: (b.tried now).granted later else (b.tried now).granted later

@[simp] theorem after_nil (b : Bucket) : b.after [] = b := rfl

@[simp] theorem after_cons (b : Bucket) (now : Int) (later : List Int) :
    b.after (now :: later) = (b.tried now).after later := rfl

theorem after_append (b : Bucket) (before later : List Int) :
    b.after (before ++ later) = (b.after before).after later := List.foldl_append

@[simp] theorem granted_nil (b : Bucket) : b.granted [] = [] := rfl

theorem tried_of_none (h : b.take? now = none) : b.tried now = b := by
  rw [tried, h, Option.getD_none]

theorem tried_of_some (h : b.take? now = some b') : b.tried now = b' := by
  rw [tried, h, Option.getD_some]

/-- A bucket that is asked for a token stays as it is, unless the token is taken from it. -/
theorem tried_eq_or (b : Bucket) (now : Int) :
    b.tried now = b ∨ b.take? now = some (b.tried now) := by
  cases h : b.take? now with
  | none => exact .inl (tried_of_none h)
  | some b' => exact .inr (congrArg some (tried_of_some h).symm)

theorem granted_of_none (h : b.take? now = none) (later : List Int) :
    b.granted (now :: later) = b.granted later := by
  rw [granted, h, tried_of_none h]
  rfl

theorem granted_of_some (h : b.take? now = some b') (later : List Int) :
    b.granted (now :: later) = now :: b'.granted later := by
  rw [granted, h, tried_of_some h]
  rfl

theorem granted_append (b : Bucket) (before later : List Int) :
    b.granted (before ++ later) = b.granted before ++ (b.after before).granted later := by
  induction before generalizing b with
  | nil => rfl
  | cons now before ih =>
    rw [List.cons_append, after_cons, granted, granted, ih]
    split
    · rfl
    · rfl

theorem granted_sublist (b : Bucket) (instants : List Int) :
    (b.granted instants).Sublist instants := by
  induction instants generalizing b with
  | nil => exact .slnil
  | cons now later ih =>
    rw [granted]
    split
    · exact (ih _).cons_cons now
    · exact (ih _).cons now

/-! ## The flow into a bucket -/

/-- The units that would flow in within some milliseconds if numbers had no bound. -/
def flow (b : Bucket) (elapsed : Int) : Nat := elapsed.toNat * b.limit / b.window

theorem inflow_le_flow (b : Bucket) (elapsed : Int) : b.inflow elapsed ≤ b.flow elapsed :=
  Nat.div_le_div_right (Nat.min_le_left _ _)

theorem flow_mono (b : Bucket) {d e : Int} (h : d ≤ e) : b.flow d ≤ b.flow e :=
  Nat.div_le_div_right (Nat.mul_le_mul_right _ (Int.toNat_le_toNat h))

/-- What flows in within two stretches of time flows in within both together. -/
theorem flow_add_flow_le (b : Bucket) {d e : Int} (hd : 0 ≤ d) (he : 0 ≤ e) :
    b.flow d + b.flow e ≤ b.flow (d + e) := by
  rw [flow, flow, flow, Int.toNat_add hd he, Nat.add_mul]
  exact Nat.div_add_div_le_add_div

/-! ## One taking -/

theorem take?_eq_some_iff :
    b.take? now = some b' ↔ scale ≤ b.unitsAt now ∧
      b' = { b with units := b.unitsAt now - scale, since := max b.since now } := by
  unfold take?
  split
  · rename_i h
    simp [Nat.not_le.mpr h]
  · rename_i h
    simp [Nat.le_of_not_lt h, eq_comm]

theorem unitsAt_le_limit (b : Bucket) (now : Int) : b.unitsAt now ≤ b.limit := Nat.min_le_right _ _

/-- What is left after a taking, together with the token that was taken, is what was there. -/
theorem take?_units (h : b.take? now = some b') : b'.units + scale = b.unitsAt now := by
  obtain ⟨hscale, rfl⟩ := take?_eq_some_iff.mp h
  dsimp only
  rw [Nat.sub_add_cancel hscale]

theorem take?_since (h : b.take? now = some b') : b'.since = max b.since now := by
  obtain ⟨-, rfl⟩ := take?_eq_some_iff.mp h
  rfl

theorem take?_capacity (h : b.take? now = some b') : b'.capacity = b.capacity := by
  obtain ⟨-, rfl⟩ := take?_eq_some_iff.mp h
  rfl

theorem take?_window (h : b.take? now = some b') : b'.window = b.window := by
  obtain ⟨-, rfl⟩ := take?_eq_some_iff.mp h
  rfl

theorem take?_limit (h : b.take? now = some b') : b'.limit = b.limit := by
  rw [limit, limit, take?_capacity h]

theorem take?_flow (h : b.take? now = some b') (elapsed : Int) :
    b'.flow elapsed = b.flow elapsed := by
  rw [flow, flow, take?_limit h, take?_window h]

/-- What was there is what was left by the taking before, and what has flowed in since. -/
theorem take?_units_le_flow (h : b.take? now = some b') :
    b'.units + scale ≤ b.units + b.flow (b'.since - b.since) := by
  have hflow : b.flow (now - b.since) ≤ b.flow (b'.since - b.since) := by
    apply b.flow_mono
    rw [take?_since h]
    omega
  calc b'.units + scale
    _ = b.unitsAt now := take?_units h
    _ ≤ b.units + b.inflow (now - b.since) := Nat.min_le_left _ _
    _ ≤ b.units + b.flow (b'.since - b.since) :=
      Nat.add_le_add_left ((b.inflow_le_flow _).trans hflow) _

/-- A taking leaves a bucket that is at least one token short of being full. -/
theorem take?_units_le_limit (h : b.take? now = some b') : b'.units + scale ≤ b.limit :=
  (take?_units h).trans_le (b.unitsAt_le_limit now)

theorem tried_capacity (b : Bucket) (now : Int) : (b.tried now).capacity = b.capacity := by
  rcases b.tried_eq_or now with h | h
  · rw [h]
  · exact take?_capacity h

theorem tried_window (b : Bucket) (now : Int) : (b.tried now).window = b.window := by
  rcases b.tried_eq_or now with h | h
  · rw [h]
  · exact take?_window h

theorem tried_limit (b : Bucket) (now : Int) : (b.tried now).limit = b.limit := by
  rw [limit, limit, tried_capacity]

theorem tried_flow (b : Bucket) (now elapsed : Int) :
    (b.tried now).flow elapsed = b.flow elapsed := by
  rw [flow, flow, tried_limit, tried_window]

theorem tried_units_le (hunits : b.units ≤ b.limit) (now : Int) :
    (b.tried now).units ≤ b.limit := by
  rcases b.tried_eq_or now with h | h
  · rwa [h]
  · exact (Nat.le_add_right _ _).trans (take?_units_le_limit h)

/-! ## Many takings -/

theorem after_limit (b : Bucket) (instants : List Int) : (b.after instants).limit = b.limit := by
  induction instants generalizing b with
  | nil => rfl
  | cons now later ih => rw [after_cons, ih, tried_limit]

theorem after_flow (b : Bucket) (instants : List Int) (elapsed : Int) :
    (b.after instants).flow elapsed = b.flow elapsed := by
  induction instants generalizing b with
  | nil => rfl
  | cons now later ih => rw [after_cons, ih, tried_flow]

/-- A bucket never holds more than it can. -/
theorem after_units_le (hunits : b.units ≤ b.limit) (instants : List Int) :
    (b.after instants).units ≤ (b.after instants).limit := by
  induction instants generalizing b with
  | nil => exact hunits
  | cons now later ih =>
    rw [after_cons]
    apply ih
    rw [tried_limit]
    exact tried_units_le hunits now

/-- The time of the last taking is the latest instant at which a token was given, unless the bucket
was made later. -/
theorem after_since (b : Bucket) (instants : List Int) :
    (b.after instants).since = (b.granted instants).foldl max b.since := by
  induction instants generalizing b with
  | nil => rfl
  | cons now later ih =>
    rw [after_cons, ih]
    cases h : b.take? now with
    | none => rw [tried_of_none h, granted_of_none h]
    | some b' => rw [tried_of_some h, granted_of_some h, List.foldl_cons, take?_since h]

theorem foldl_max_le_iff {l : List Int} {a e : Int} :
    l.foldl max a ≤ e ↔ a ≤ e ∧ ∀ t ∈ l, t ≤ e := by
  induction l generalizing a with
  | nil => simp
  | cons t l ih => simp [ih, and_assoc]

theorem since_le_after (b : Bucket) (instants : List Int) : b.since ≤ (b.after instants).since := by
  rw [after_since]
  exact (foldl_max_le_iff.mp (le_refl _)).1

theorem after_since_le {e : Int} {instants : List Int} (hsince : b.since ≤ e)
    (h : ∀ t ∈ instants, t ≤ e) : (b.after instants).since ≤ e := by
  rw [after_since, foldl_max_le_iff]
  exact ⟨hsince, fun t ht ↦ h t ((b.granted_sublist instants).mem ht)⟩

/-- The tokens given and the units that are left were in the bucket, or have flowed in up to the
last taking. -/
theorem granted_units (b : Bucket) (instants : List Int) :
    scale * (b.granted instants).length + (b.after instants).units ≤
      b.units + b.flow ((b.after instants).since - b.since) := by
  induction instants generalizing b with
  | nil => simp
  | cons now later ih =>
    rw [after_cons]
    cases h : b.take? now with
    | none =>
      rw [tried_of_none h, granted_of_none h]
      exact ih b
    | some b' =>
      rw [tried_of_some h, granted_of_some h, List.length_cons]
      have hlater := ih b'
      rw [take?_flow h] at hlater
      have hnow := take?_units_le_flow h
      have hstart : 0 ≤ b'.since - b.since := by
        rw [take?_since h]
        omega
      have hend : 0 ≤ (b'.after later).since - b'.since := by
        have := b'.since_le_after later
        omega
      have hflow := b.flow_add_flow_le hstart hend
      rw [show b'.since - b.since + ((b'.after later).since - b'.since) =
        (b'.after later).since - b.since by omega] at hflow
      rw [Nat.mul_succ]
      omega

/-- The tokens given in an interval of time, to a bucket that holds no more than it can. The first
of them is there at the most when the interval begins; the others have to flow in. -/
theorem granted_units_of_within {s e : Int} {instants : List Int} (hunits : b.units ≤ b.limit)
    (h : ∀ t ∈ instants, s ≤ t ∧ t ≤ e) :
    scale * (b.granted instants).length ≤ b.limit + b.flow (e - s) := by
  induction instants generalizing b with
  | nil => simp
  | cons now later ih =>
    obtain ⟨⟨hs, he⟩, hlater⟩ := List.forall_mem_cons.mp h
    cases ht : b.take? now with
    | none =>
      rw [granted_of_none ht]
      exact ih hunits hlater
    | some b' =>
      rw [granted_of_some ht, List.length_cons, Nat.mul_succ]
      have hrest := b'.granted_units later
      have hfirst := take?_units_le_limit ht
      have hflow : b'.flow ((b'.after later).since - b'.since) ≤ b.flow (e - s) := by
        rw [take?_flow ht]
        apply b.flow_mono
        have hend : (b'.after later).since ≤ max b'.since e :=
          after_since_le (le_max_left _ _) fun t hmem ↦ (hlater t hmem).2.trans (le_max_right _ _)
        rw [take?_since ht] at hend ⊢
        omega
      omega

/-! ## Intervals of time -/

/-- Instants in their order come before an interval, lie within it or come behind it. -/
theorem exists_segments {instants : List Int} (h : instants.Pairwise (· ≤ ·)) (s e : Int) :
    ∃ before within behind, instants = before ++ within ++ behind ∧ (∀ t ∈ before, t < s) ∧
      (∀ t ∈ within, s ≤ t ∧ t ≤ e) ∧ ∀ t ∈ behind, e < t := by
  induction instants with
  | nil => exact ⟨[], [], [], rfl, by simp⟩
  | cons now later ih =>
    obtain ⟨hnow, hlater⟩ := List.pairwise_cons.mp h
    obtain ⟨before, within, behind, rfl, hbefore, hwithin, hbehind⟩ := ih hlater
    rcases lt_or_ge now s with hs | hs
    · refine ⟨now :: before, within, behind, rfl, ?_, hwithin, hbehind⟩
      exact List.forall_mem_cons.mpr ⟨hs, hbefore⟩
    · have hnone : before = [] := by
        apply List.eq_nil_iff_forall_not_mem.mpr
        intro t ht
        have := hnow t (by simp [ht])
        have := hbefore t ht
        omega
      subst hnone
      rcases le_or_gt now e with he | he
      · refine ⟨[], now :: within, behind, rfl, by simp, ?_, hbehind⟩
        exact List.forall_mem_cons.mpr ⟨⟨hs, he⟩, hwithin⟩
      · have hnone : within = [] := by
          apply List.eq_nil_iff_forall_not_mem.mpr
          intro t ht
          have := hnow t (by simp [ht])
          have := hwithin t ht
          omega
        subst hnone
        refine ⟨[], [], now :: behind, rfl, by simp, by simp, ?_⟩
        exact List.forall_mem_cons.mpr ⟨he, hbehind⟩

/-- The tokens given in an interval are those given at the instants that lie within it. -/
theorem filter_granted (b : Bucket) {s e : Int} {before within behind : List Int}
    (hbefore : ∀ t ∈ before, t < s) (hwithin : ∀ t ∈ within, s ≤ t ∧ t ≤ e)
    (hbehind : ∀ t ∈ behind, e < t) :
    (b.granted (before ++ within ++ behind)).filter (fun t ↦ s ≤ t ∧ t ≤ e) =
      (b.after before).granted within := by
  have hnone (b : Bucket) {l : List Int} (h : ∀ t ∈ l, ¬(s ≤ t ∧ t ≤ e)) :
      (b.granted l).filter (fun t ↦ s ≤ t ∧ t ≤ e) = [] := by
    rw [List.filter_eq_nil_iff]
    intro t ht
    simpa using h t ((b.granted_sublist l).mem ht)
  have hall (b : Bucket) :
      (b.granted within).filter (fun t ↦ s ≤ t ∧ t ≤ e) = b.granted within := by
    rw [List.filter_eq_self]
    intro t ht
    simpa using hwithin t ((b.granted_sublist within).mem ht)
  rw [granted_append, granted_append, List.filter_append, List.filter_append, hall,
    hnone _ fun t ht h ↦ absurd h.1 (hbefore t ht).not_ge,
    hnone _ fun t ht h ↦ absurd h.2 (hbehind t ht).not_ge, List.nil_append, List.append_nil]

/-! ## Buckets that are full at first -/

/-- A bound in units is a bound in tokens. -/
theorem length_le_of_units {capacity window n : Nat} {elapsed : Int} (hwindow : 1 ≤ window)
    (start : Int)
    (h : scale * n ≤
      (full capacity window start).limit + (full capacity window start).flow elapsed) :
    n ≤ capacity + capacity * elapsed.toNat / window := by
  have hflow : (full capacity window start).flow elapsed / scale =
      capacity * elapsed.toNat / window := by
    calc elapsed.toNat * (capacity * scale) / max window 1 / scale
      _ = capacity * elapsed.toNat * scale / (window * scale) := by
        rw [Nat.div_div_eq_div_mul, max_eq_left hwindow, ← Nat.mul_assoc,
          Nat.mul_comm elapsed.toNat]
      _ = capacity * elapsed.toNat / window := Nat.mul_div_mul_right _ _ (by decide)
  calc n
    _ = scale * n / scale := (Nat.mul_div_cancel_left n (by decide)).symm
    _ ≤ (capacity * scale + (full capacity window start).flow elapsed) / scale :=
      Nat.div_le_div_right h
    _ = capacity + capacity * elapsed.toNat / window := by
      rw [Nat.mul_comm capacity, Nat.mul_add_div (by decide), hflow]

/-- While the clock does not go back, a bucket that is full at first gives no more tokens in any
interval of time than it can hold and than flow in within this interval. However the clock jumps,
it gives no more than it can hold and than flow in up to the last instant at which it gives one. -/
theorem granted_length_le (capacity : Nat) {window : Nat} (hwindow : 1 ≤ window) (start : Int)
    (instants : List Int) :
    ((start :: instants).Pairwise (· ≤ ·) → ∀ s e : Int,
      (((full capacity window start).granted instants).filter fun t ↦ s ≤ t ∧ t ≤ e).length ≤
        capacity + capacity * (e - s).toNat / window) ∧
    ((full capacity window start).granted instants).length ≤ capacity + capacity *
      (((full capacity window start).granted instants).foldl max start - start).toNat / window := by
  constructor
  · intro hclock s e
    obtain ⟨before, within, behind, rfl, hbefore, hwithin, hbehind⟩ :=
      exists_segments (List.pairwise_cons.mp hclock).2 s e
    rw [filter_granted _ hbefore hwithin hbehind]
    apply length_le_of_units hwindow start
    have hfull : (full capacity window start).units ≤ (full capacity window start).limit :=
      le_refl _
    have hunits := granted_units_of_within (after_units_le hfull before) hwithin
    rwa [after_limit, after_flow] at hunits
  · have hunits := (full capacity window start).granted_units instants
    rw [after_since] at hunits
    exact length_le_of_units hwindow start ((Nat.le_add_right _ _).trans hunits)

/-- Two tokens in a bucket that fills in two seconds. Both are given at once, and the next one
follows a second later. When the clock has gone back, it has to come up again first. -/
theorem granted_length_le_pair :
    (full 2 2000 0).granted [0, 0, 500, 1000, 1500] = [0, 0, 1000] ∧
      (([0, 0, 1000] : List Int).filter fun t ↦ 0 ≤ t ∧ t ≤ 500).length ≤ 2 + 2 * 500 / 2000 ∧
      (full 2 2000 0).granted [3000, 0, 0, 3500, 4000] = [3000, 0, 4000] ∧
      ([3000, 0, 4000] : List Int).length ≤ 2 + 2 * 4000 / 2000 := by
  have hgiven : (full 2 2000 0).granted [0, 0, 500, 1000, 1500] = [0, 0, 1000] := by decide
  have hback : (full 2 2000 0).granted [3000, 0, 0, 3500, 4000] = [3000, 0, 4000] := by decide
  obtain ⟨hinterval, -⟩ :=
    granted_length_le 2 (show 1 ≤ 2000 by decide) 0 [0, 0, 500, 1000, 1500]
  obtain ⟨-, htotal⟩ :=
    granted_length_le 2 (show 1 ≤ 2000 by decide) 0 [3000, 0, 0, 3500, 4000]
  rw [hgiven] at hinterval
  rw [hback] at htotal
  exact ⟨hgiven, hinterval (by decide) 0 500, hback, htotal⟩

end Mailroom.Rate.Bucket
