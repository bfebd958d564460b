import Mailroom.Proofs.Rate.Limiter
import Mailroom.Proofs.Rate.Refill

/-!
# What a client is told about the time to come

A limiter answers clients while the clock does not go back, and drops buckets now and then. Each
answer says something about the answers to come: how many requests will be let through at the same
instant, how long to wait, and when the bucket will be full again. The invariant is that the bucket
of every client is in order at the present instant (`Keeps`); what is told is then a matter of one
bucket, and the other clients and the dropping have to be shown not to touch it.
-/

namespace Mailroom.Rate

/-- Whether a request was let through. -/
def Verdict.isAllowed : Verdict → Bool
  | .allowed .. => true
  | .denied .. => false

/-- The second that is told, whatever the verdict is. -/
def Verdict.resetAt : Verdict → Int
  | .allowed _ _ resetAt => resetAt
  | .denied _ _ resetAt => resetAt

namespace Bucket

variable {b b' : Bucket} {now : Int}

theorem full_inOrder {capacity window : Nat} (hcapacity : 1 ≤ capacity) (hwindow : 1 ≤ window)
    (hvolume : window * (capacity * scale) < 2 ^ 62) (hnow : 0 ≤ now) :
    (full capacity window now).InOrder now where
  capacity_pos := hcapacity
  window_pos := hwindow.trans (le_max_left _ _)
  volume_lt := by
    rw [full, limit, max_eq_left hwindow]
    exact hvolume
  units_le := le_refl _
  since_nonneg := hnow
  since_le := le_refl _

theorem full_unitsAt (capacity window : Nat) (now : Int) :
    (full capacity window now).unitsAt now = capacity * scale :=
  unitsAt_of_since_eq (le_refl _) rfl

theorem full_take?_isSome {capacity : Nat} (hcapacity : 1 ≤ capacity) (window : Nat) (now : Int) :
    ((full capacity window now).take? now).isSome = true := by
  rw [take?_isSome_iff, full_unitsAt]
  exact Nat.le_mul_of_pos_left scale hcapacity

/-- At the instant of a taking, a bucket gives as many tokens as it holds. -/
theorem ask_of_since_eq (h : b.InOrder now) (hsince : b.since = now) :
    (b.ask now).1.since = now ∧ (b.ask now).1.units / scale = b.units / scale - 1 ∧
      ((b.ask now).2.isAllowed = true ↔ 0 < b.units / scale) := by
  have hunits := unitsAt_of_since_eq h.units_le hsince
  rw [ask]
  cases ht : b.take? now with
  | none =>
    have hless := take?_eq_none_iff.mp ht
    rw [hunits] at hless
    rw [Nat.div_eq_of_lt hless]
    exact ⟨hsince, rfl, by simp [Verdict.isAllowed]⟩
  | some b' =>
    have htaken := take?_units ht
    rw [hunits] at htaken
    refine ⟨(take?_since ht).trans (max_eq_right hsince.le), ?_, ?_⟩
    · rw [← htaken, Nat.add_div_right _ (by decide), Nat.succ_sub_one]
    · rw [← htaken, Nat.add_div_right _ (by decide)]
      simp [Verdict.isAllowed]

/-- What a bucket tells is what is known of it when it has been asked. -/
theorem ask_snd (h : b.InOrder now) :
    (b.ask now).2.resetAt = (b.ask now).1.resetAt now ∧
      ∀ {remaining limit : Nat} {resetAt : Int}, (b.ask now).2 = .allowed remaining limit resetAt →
        (b.ask now).1.since = now ∧ remaining = (b.ask now).1.units / scale := by
  rw [ask]
  cases ht : b.take? now with
  | none =>
    refine ⟨rfl, ?_⟩
    intro remaining limit resetAt hallowed
    cases hallowed
  | some b' =>
    have hsince := (take?_since ht).trans (max_eq_right h.since_le)
    refine ⟨rfl, ?_⟩
    intro remaining limit resetAt hallowed
    cases hallowed
    exact ⟨hsince, by rw [available, unitsAt_of_since_eq (h.take? ht).units_le hsince]⟩

theorem ask_snd_isAllowed (b : Bucket) (now : Int) :
    (b.ask now).2.isAllowed = (b.take? now).isSome := by
  rw [ask]
  cases b.take? now with
  | none => rfl
  | some b' => rfl

end Bucket

namespace Limiter

variable {settings : RateSettings} {l : Limiter} {client other : String} {now : Int}

/-! ## Buckets in order -/

/-- What is known of a limiter at an instant, if the clock did not go back. -/
structure Keeps (settings : RateSettings) (now : Int) (l : Limiter) : Prop where
  settings_eq : l.settings = settings
  distinct : l.Distinct
  inOrder : ∀ client b, l.buckets.lookup client = some b →
    settings.enabled = true ∧ Sizes settings b ∧ b.InOrder now

/-- The limiter behind some acts, each at the time that the clock shows. -/
def behind (l : Limiter) (events : List (Int × Act)) : Limiter :=
  events.foldl (fun l e ↦ (l.performed (instant e.1) e.2).1) l

theorem behind_cons (l : Limiter) (e : Int × Act) (events : List (Int × Act)) :
    l.behind (e :: events) = (l.performed (instant e.1) e.2).1.behind events := rfl

theorem instant_nonneg (clock : Int) : 0 ≤ instant clock := le_max_left 0 clock

theorem checkAt_of_disabled (h : l.settings.enabled = false) (client : String) (now : Int) :
    l.checkAt client now = (l, .allowed l.settings.requests l.settings.requests 0) := by
  rw [checkAt, h]
  rfl

namespace Keeps

theorem fresh (settings : RateSettings) (now : Int) : Keeps settings now { settings } :=
  ⟨rfl, List.nodup_nil, nofun⟩

theorem later {future : Int} (hle : now ≤ future) (h : l.Keeps settings now) :
    l.Keeps settings future :=
  { h with inOrder := fun client b hb ↦
      (h.inOrder client b hb).imp_right fun ⟨hsizes, horder⟩ ↦ ⟨hsizes, horder.later hle⟩ }

/-- The bucket that is asked for a client is in order, whether there has been one or not. -/
theorem bucketOf (h : l.Keeps settings now) (hsettings : Moderate settings) (hnow : 0 ≤ now)
    (client : String) :
    Sizes settings (l.bucketOf client now) ∧ (l.bucketOf client now).InOrder now := by
  obtain ⟨rfl, -, hbuckets⟩ := h
  rw [bucketOf_eq hsettings]
  cases hfound : l.buckets.lookup client with
  | some b => exact (hbuckets client b hfound).2
  | none =>
    have hsizes := sizes_full hsettings now
    have hvolume := hsizes.volume_lt hsettings
    rw [hsizes.window_eq] at hvolume
    have hwindow : 1 ≤ l.settings.window * 1000 := by
      have := hsettings.window
      omega
    exact ⟨hsizes, Bucket.full_inOrder hsettings.requests hwindow hvolume hnow⟩

/-- A client is answered by its bucket, which is put in its place again. -/
theorem checkAt_eq (h : l.Keeps settings now) (hsettings : Moderate settings) (hnow : 0 ≤ now)
    (hon : settings.enabled = true) (client : String) :
    l.checkAt client now = (l.put client ((l.bucketOf client now).ask now).1,
      ((l.bucketOf client now).ask now).2) := by
  obtain ⟨hsizes, -⟩ := h.bucketOf hsettings hnow client
  obtain ⟨rfl, -, -⟩ := h
  rw [bucketOf_eq hsettings] at hsizes ⊢
  exact Limiter.checkAt_eq hsettings hon hsizes

theorem put {b : Bucket} (h : l.Keeps settings now) (hon : settings.enabled = true)
    (hb : Sizes settings b ∧ b.InOrder now) (client : String) :
    (l.put client b).Keeps settings now where
  settings_eq := h.settings_eq
  distinct := distinct_put h.distinct client b
  inOrder := by
    intro other b' hfound
    by_cases hne : other = client
    · subst hne
      rw [lookup_put_self] at hfound
      cases hfound
      exact ⟨hon, hb⟩
    · rw [lookup_put_of_ne h.distinct hne] at hfound
      exact h.inOrder other b' hfound

theorem swept (h : l.Keeps settings now) (at' : Int) : (l.swept at').Keeps settings now where
  settings_eq := h.settings_eq
  distinct := distinct_filter h.distinct _
  inOrder := by
    intro client b hfound
    rw [lookup_swept h.distinct, Option.filter_eq_some_iff] at hfound
    exact h.inOrder client b hfound.1

theorem checkAt (h : l.Keeps settings now) (hsettings : Moderate settings) (hnow : 0 ≤ now)
    (client : String) : (l.checkAt client now).1.Keeps settings now := by
  cases hon : settings.enabled with
  | false => rwa [checkAt_of_disabled (h.settings_eq.symm ▸ hon)]
  | true =>
    obtain ⟨hsizes, horder⟩ := h.bucketOf hsettings hnow client
    rw [h.checkAt_eq hsettings hnow hon]
    refine h.put hon ⟨hsizes.ask now, ?_⟩ client
    rw [Bucket.ask_fst]
    exact horder.tried

theorem performed (h : l.Keeps settings now) (hsettings : Moderate settings) (hnow : 0 ≤ now)
    (act : Act) : (l.performed now act).1.Keeps settings now := by
  cases act with
  | check client => exact h.checkAt hsettings hnow client
  | sweep => exact h.swept now

/-- Whatever is done while the clock does not go back, buckets stay in order. -/
theorem behind {events : List (Int × Act)} {future : Int} (h : l.Keeps settings now)
    (hsettings : Moderate settings)
    (hclock : (now :: events.map (fun e ↦ instant e.1) ++ [future]).Pairwise (· ≤ ·)) :
    (l.behind events).Keeps settings future := by
  induction events generalizing l now with
  | nil => exact h.later (by simpa using hclock)
  | cons e events ih =>
    rw [List.map_cons, List.cons_append] at hclock
    obtain ⟨hnow, hlater⟩ := List.pairwise_cons.mp hclock
    have hle : now ≤ instant e.1 := hnow _ (by simp)
    exact ih ((h.later hle).performed hsettings (instant_nonneg e.1) e.2) hlater

end Keeps

theorem instants_pairwise {clocks : List Int} (h : clocks.Pairwise (· ≤ ·)) :
    (clocks.map instant).Pairwise (· ≤ ·) := List.pairwise_map.mpr (h.imp instant_mono)

/-- A clock that does not go back did not go back up to some event, nor since then. -/
theorem clocks_split {before after : List (Int × Act)} {clock clock' : Int}
    (h : (before.map Prod.fst ++ clock :: after.map Prod.fst ++ [clock']).Pairwise (· ≤ ·)) :
    (before.map Prod.fst ++ [clock]).Pairwise (· ≤ ·) ∧
      (instant clock :: after.map (fun e ↦ instant e.1) ++ [instant clock']).Pairwise
        (· ≤ ·) := by
  constructor
  · exact h.sublist (by simp)
  · have hinstants := instants_pairwise (h.sublist
      (show (clock :: after.map Prod.fst ++ [clock']).Sublist _ by simp))
    rw [List.map_append, List.map_cons, List.map_map] at hinstants
    exact hinstants

/-- When the clock does not go back through some events and up to a last reading, buckets are in
order then. -/
theorem keeps_behind (hsettings : Moderate settings) {events : List (Int × Act)} {clock : Int}
    (hclock : (events.map Prod.fst ++ [clock]).Pairwise (· ≤ ·)) :
    (behind { settings } events).Keeps settings (instant clock) := by
  refine (Keeps.fresh settings 0).behind hsettings (List.pairwise_cons.mpr ⟨?_, ?_⟩)
  · intro t ht
    rcases List.mem_append.mp ht with ht | ht
    · obtain ⟨e, -, rfl⟩ := List.mem_map.mp ht
      exact instant_nonneg e.1
    · rw [List.mem_singleton.mp ht]
      exact instant_nonneg clock
  · have hinstants := instants_pairwise hclock
    rw [List.map_append, List.map_map] at hinstants
    exact hinstants

/-! ## What the others do -/

/-- A request touches no bucket but the one of its client. -/
theorem checkAt_eq_or_put (l : Limiter) (client : String) (now : Int) :
    (l.checkAt client now).1 = l ∨ ∃ b, (l.checkAt client now).1 = l.put client b := by
  cases hon : l.settings.enabled with
  | false => exact .inl (by rw [checkAt_of_disabled hon])
  | true => exact .inr (exists_checkAt hon client now)

theorem settings_performed (l : Limiter) (now : Int) (act : Act) :
    (l.performed now act).1.settings = l.settings := by
  cases act with
  | sweep => rfl
  | check client =>
    rw [performed]
    rcases l.checkAt_eq_or_put client now with h | ⟨b, h⟩
    · rw [h]
    · rw [h, put]

theorem settings_behind (l : Limiter) (events : List (Int × Act)) :
    (l.behind events).settings = l.settings := by
  induction events generalizing l with
  | nil => rfl
  | cons e events ih => exact (ih _).trans (l.settings_performed (instant e.1) e.2)

theorem distinct_performed (hl : l.Distinct) (now : Int) (act : Act) :
    (l.performed now act).1.Distinct := by
  cases act with
  | sweep => exact distinct_filter hl _
  | check client =>
    rcases l.checkAt_eq_or_put client now with h | ⟨b, h⟩
    · exact h.symm ▸ hl
    · exact h.symm ▸ distinct_put hl client b

/-- While a client does not ask, its bucket stays as it is or is dropped. -/
theorem lookup_performed (hl : l.Distinct) {act : Act} (hact : act ≠ .check client) (now : Int) :
    (l.performed now act).1.buckets.lookup client = l.buckets.lookup client ∨
      (l.performed now act).1.buckets.lookup client = none := by
  cases act with
  | sweep =>
    rw [performed, lookup_swept hl]
    cases l.buckets.lookup client with
    | none => exact .inl rfl
    | some b =>
      rw [Option.filter_some]
      split
      · exact .inl rfl
      · exact .inr rfl
  | check other =>
    have hne : client ≠ other := fun h ↦ hact (congrArg Act.check h.symm)
    rw [performed]
    rcases l.checkAt_eq_or_put other now with h | ⟨b, h⟩
    · exact .inl (by rw [h])
    · exact .inl (by rw [h, lookup_put_of_ne hl hne])

theorem lookup_behind (hl : l.Distinct) {events : List (Int × Act)}
    (hevents : ∀ e ∈ events, e.2 ≠ .check client) :
    (l.behind events).buckets.lookup client = l.buckets.lookup client ∨
      (l.behind events).buckets.lookup client = none := by
  induction events generalizing l with
  | nil => exact .inl rfl
  | cons e events ih =>
    obtain ⟨he, hlater⟩ := List.forall_mem_cons.mp hevents
    rw [behind_cons]
    rcases ih (distinct_performed hl (instant e.1) e.2) hlater with h | h
    · rw [h]
      exact lookup_performed hl he (instant e.1)
    · exact .inr h

/-! ## Waiting -/

/-- A client that is refused has a bucket without a token, which stays as it is. -/
theorem Keeps.of_denied {wait limit : Nat} {resetAt : Int} (h : l.Keeps settings now)
    (hsettings : Moderate settings) (hnow : 0 ≤ now)
    (hdenied : (l.checkAt client now).2 = .denied wait limit resetAt) :
    settings.enabled = true ∧ (l.bucketOf client now).take? now = none ∧
      (l.bucketOf client now).retryAfter now = wait ∧
      (l.checkAt client now).1.buckets.lookup client = some (l.bucketOf client now) := by
  cases hon : settings.enabled with
  | false =>
    rw [checkAt_of_disabled (h.settings_eq.symm ▸ hon)] at hdenied
    cases hdenied
  | true =>
    rw [h.checkAt_eq hsettings hnow hon] at hdenied ⊢
    rw [lookup_put_self, Bucket.ask_fst]
    rw [Bucket.ask] at hdenied
    cases ht : (l.bucketOf client now).take? now with
    | some b =>
      rw [ht] at hdenied
      cases hdenied
    | none =>
      rw [ht] at hdenied
      cases hdenied
      exact ⟨rfl, rfl, rfl, congrArg some (Bucket.tried_of_none ht)⟩

/-- After a client was refused and while it did not ask, its bucket answers as the wait that was
told allows, unless it was dropped. -/
theorem Keeps.isAllowed_iff {wait limit : Nat} {resetAt future : Int}
    {between : List (Int × Act)} (h : l.Keeps settings now) (hsettings : Moderate settings)
    (hnow : 0 ≤ now) (hdenied : (l.checkAt client now).2 = .denied wait limit resetAt)
    (hbetween : ∀ e ∈ between, e.2 ≠ .check client)
    (hfuture : ((l.checkAt client now).1.behind between).Keeps settings future)
    (hwait : now + 1000 * wait ≤ future) :
    (((l.checkAt client now).1.behind between).checkAt client future).2.isAllowed = true ↔
      ((l.checkAt client now).1.behind between).buckets.lookup client = none ∨
        now + 1000 * wait < future ∨
        (scale - (l.bucketOf client now).unitsAt now) * (l.bucketOf client now).window ≤
          1000 * wait * (l.bucketOf client now).limit + (l.bucketOf client now).phase now := by
  obtain ⟨-, horder⟩ := h.bucketOf hsettings hnow client
  obtain ⟨hon, hnone, rfl, hkept⟩ := h.of_denied hsettings hnow hdenied
  rw [hfuture.checkAt_eq hsettings (by omega) hon, Bucket.ask_snd_isAllowed, Limiter.bucketOf]
  rcases lookup_behind (h.checkAt hsettings hnow client).distinct hbetween with hsame | hdropped
  · rw [hsame, hkept, Option.getD_some, Bucket.take?_isSome_iff_of_wait horder hnone hwait]
    simp only [reduceCtorEq, false_or]
  · rw [hdropped, Option.getD_none]
    simp only [true_or, iff_true]
    apply Bucket.full_take?_isSome
    rw [hfuture.settings_eq]
    exact hsettings.requests

/-- A client that is refused is told how long to wait. If it asks again later than that, it is let
through. If it asks just then, it is let through when its bucket was dropped meanwhile, or when the
phase makes up for the part of a millisecond that the wait leaves out. -/
theorem isAllowed_iff_of_wait (hsettings : Moderate settings)
    {before between : List (Int × Act)} {clock clock' : Int} {wait limit : Nat} {resetAt : Int}
    (hclock : (before.map Prod.fst ++ clock :: between.map Prod.fst ++ [clock']).Pairwise (· ≤ ·))
    (hdenied : ((behind { settings } before).checkAt client (instant clock)).2 =
      .denied wait limit resetAt)
    (hbetween : ∀ e ∈ between, e.2 ≠ .check client)
    (hwait : instant clock + 1000 * wait ≤ instant clock') :
    let b := (behind { settings } before).bucketOf client (instant clock)
    let l := ((behind { settings } before).checkAt client (instant clock)).1.behind between
    (l.checkAt client (instant clock')).2.isAllowed = true ↔
      l.buckets.lookup client = none ∨ instant clock + 1000 * wait < instant clock' ∨
        (scale - b.unitsAt (instant clock)) * b.window ≤
          1000 * wait * b.limit + b.phase (instant clock) := by
  obtain ⟨hearlier, hlater⟩ := clocks_split hclock
  have hfirst := keeps_behind hsettings hearlier
  have hnow := instant_nonneg clock
  exact hfirst.isAllowed_iff hsettings hnow hdenied hbetween
    ((hfirst.checkAt hsettings hnow client).behind hsettings hlater) hwait

/-- Two tokens, which flow in within three seconds. -/
def pair : RateSettings := { requests := 2, window := 3 }

/-- A bucket that lacks a thousandth of a token and holds a third of a thousandth. -/
theorem isAllowed_iff_of_wait_pair :
    let l := behind { settings := pair } [(0, .check "ann"), (2, .check "ann")]
    (l.checkAt "ann" (instant 500)).2 = .denied 1 2 4 ∧
      (((l.checkAt "ann" (instant 500)).1.behind [(900, .sweep)]).checkAt "ann"
        (instant 1501)).2.isAllowed = true := by
  have hpair : Moderate pair := ⟨by decide, by decide, by decide⟩
  have hdenied : ((behind { settings := pair } [(0, .check "ann"), (2, .check "ann")]).checkAt
      "ann" (instant 500)).2 = .denied 1 2 4 := by decide +kernel
  refine ⟨hdenied, ?_⟩
  exact (isAllowed_iff_of_wait hpair (by decide) hdenied (by simp) (by decide)).mpr
    (.inr (.inl (by decide)))

/-- A client that waits for as long as it is told is refused again. -/
theorem refused_after_wait :
    Moderate pair ∧
      answersTo "ann" (answers { settings := pair } {}
          [(0, .check "ann"), (2, .check "ann"), (500, .check "ann"), (1500, .check "ann")]) =
        [.allowed 1 2 2, .allowed 0 2 4, .denied 1 2 4, .denied 1 2 4] := by
  refine ⟨⟨?_, ?_, ?_⟩, ?_⟩ <;> decide +kernel

/-! ## What is left -/

namespace Keeps

variable {b : Bucket}

/-- A client that asks is answered by the bucket that it has. -/
theorem performed_self (h : l.Keeps settings now) (hsettings : Moderate settings) (hnow : 0 ≤ now)
    (hb : l.buckets.lookup client = some b) :
    (l.performed now (.check client)).2 = some (client, (b.ask now).2) ∧
      (l.performed now (.check client)).1.buckets.lookup client = some (b.ask now).1 := by
  have hbucket : l.bucketOf client now = b := by rw [Limiter.bucketOf, hb, Option.getD_some]
  rw [Limiter.performed, h.checkAt_eq hsettings hnow (h.inOrder client b hb).1, hbucket,
    lookup_put_self]
  exact ⟨rfl, rfl⟩

/-- While a client does not ask, the bucket that was asked at this instant stays, unless buckets are
dropped as soon as they are asked. -/
theorem performed_other {act : Act} (h : l.Keeps settings now)
    (hb : l.buckets.lookup client = some b) (hsince : b.since = now) (hact : act ≠ .check client)
    (hsweep : act = .sweep → 0 < lifetime { settings }) :
    answersTo client (l.performed now act).2.toList = [] ∧
      (l.performed now act).1.buckets.lookup client = some b := by
  cases act with
  | sweep =>
    have hlifetime : 0 < l.lifetime := by
      have hpositive := hsweep rfl
      rwa [lifetime, ← h.settings_eq] at hpositive
    refine ⟨rfl, ?_⟩
    rw [Limiter.performed, lookup_swept h.distinct, hb, Option.filter_some, hsince, sub_self,
      if_pos (by simpa)]
  | check other =>
    have hne : client ≠ other := fun heq ↦ hact (congrArg Act.check heq.symm)
    refine ⟨answersTo_of_ne hne _, ?_⟩
    obtain ⟨b', hput⟩ :=
      exists_checkAt (h.settings_eq.symm ▸ (h.inOrder client b hb).1) other now
    rw [Limiter.performed, hput, lookup_put_of_ne h.distinct hne, hb]

/-- A bucket that was asked at an instant gives as many tokens at the same instant as it holds. -/
theorem isAllowed_iff_lt {events : List (Int × Act)} (h : l.Keeps settings now)
    (hsettings : Moderate settings) (hnow : 0 ≤ now) (hb : l.buckets.lookup client = some b)
    (hsince : b.since = now) (hevents : ∀ e ∈ events, instant e.1 = now)
    (hsweep : ∀ e ∈ events, e.2 = .sweep → 0 < lifetime { settings }) (journal : Journal) {i : Nat}
    {verdict : Verdict} (hi : (answersTo client (l.answers journal events))[i]? = some verdict) :
    verdict.isAllowed = true ↔ i < b.units / scale := by
  induction events generalizing l b journal i with
  | nil => cases hi
  | cons e events ih =>
    obtain ⟨clock, act⟩ := e
    obtain ⟨hclock, hlater⟩ := List.forall_mem_cons.mp hevents
    obtain ⟨hfirst, hsweeps⟩ := List.forall_mem_cons.mp hsweep
    obtain ⟨journal', hanswers⟩ := l.answers_cons journal clock act events
    obtain rfl : instant clock = now := hclock
    have hnext := h.performed hsettings hnow act
    rw [hanswers, answersTo_append] at hi
    by_cases hact : act = .check client
    · subst hact
      obtain ⟨hsince', hunits, hallowed⟩ :=
        Bucket.ask_of_since_eq (h.inOrder client b hb).2.2 hsince
      obtain ⟨hanswer, hb'⟩ := h.performed_self hsettings hnow hb
      rw [hanswer, answersTo_self, List.singleton_append] at hi
      cases i with
      | zero =>
        cases hi
        exact hallowed
      | succ i =>
        rw [ih hnext hb' hsince' hlater hsweeps journal' hi, hunits]
        omega
    · obtain ⟨hnone, hb'⟩ := h.performed_other hb hsince hact hfirst
      rw [hnone, List.nil_append] at hi
      exact ih hnext hb' hsince hlater hsweeps journal' hi

end Keeps

/-! ## What is told -/

/-- What is told to a client is told by its bucket, which was asked just now. -/
theorem Keeps.checkAt_snd {b : Bucket} (h : l.Keeps settings now) (hsettings : Moderate settings)
    (hnow : 0 ≤ now) (hb : (l.checkAt client now).1.buckets.lookup client = some b) :
    (l.checkAt client now).2.resetAt = b.resetAt now ∧
      ∀ {remaining limit : Nat} {resetAt : Int},
        (l.checkAt client now).2 = .allowed remaining limit resetAt →
          b.since = now ∧ remaining = b.units / scale := by
  obtain ⟨hon, -, -⟩ := (h.checkAt hsettings hnow client).inOrder client b hb
  obtain ⟨-, horder⟩ := h.bucketOf hsettings hnow client
  rw [h.checkAt_eq hsettings hnow hon] at hb ⊢
  rw [lookup_put_self, Option.some_inj] at hb
  subst hb
  exact Bucket.ask_snd horder

/-- While a client does not ask, it has its bucket or gets a full one. -/
theorem Keeps.unitsAt_behind {b : Bucket} {events : List (Int × Act)} (h : l.Keeps settings now)
    (hb : l.buckets.lookup client = some b) (hevents : ∀ e ∈ events, e.2 ≠ .check client)
    {future : Int} (hfull : b.unitsAt future = b.limit) :
    ((l.behind events).bucketOf client future).unitsAt future = settings.requests * scale := by
  obtain ⟨-, hsizes, -⟩ := h.inOrder client b hb
  rw [Limiter.bucketOf]
  rcases lookup_behind h.distinct hevents with hkept | hdropped
  · rw [hkept, hb, Option.getD_some, hfull, Bucket.limit, hsizes.capacity_eq]
  · rw [hdropped, Option.getD_none, Bucket.full_unitsAt, settings_behind, h.settings_eq]

/-- What a client is told is so. When it is let through, as many requests as are said to remain will
be let through at the same instant and no more, unless buckets are dropped as soon as they are
asked. And as long as the seconds can be told in a word, its bucket is full from the second on that
is told, if it does not ask again; and before that second it will not have been full for longer than
one unit takes to flow in and a second more. -/
theorem remaining_and_resetAt (hsettings : Moderate settings) {before : List (Int × Act)}
    {clock : Int} (hclock : (before.map Prod.fst ++ [clock]).Pairwise (· ≤ ·)) {b : Bucket}
    (hb : ((behind { settings } before).checkAt client (instant clock)).1.buckets.lookup client =
      some b) :
    let l := ((behind { settings } before).checkAt client (instant clock)).1
    let verdict := ((behind { settings } before).checkAt client (instant clock)).2
    (∀ remaining limit resetAt, verdict = .allowed remaining limit resetAt →
      ∀ journal events, (∀ e ∈ events, instant e.1 = instant clock) →
        (∀ e ∈ events, e.2 = .sweep → 0 < lifetime { settings }) →
        ∀ i answer, (answersTo client (l.answers journal events))[i]? = some answer →
          (answer.isAllowed = true ↔ i < remaining)) ∧
    (b.refilledAt (instant clock) + 999 < 2 ^ 63 →
      (∀ events, (∀ e ∈ events, e.2 ≠ .check client) → ∀ t, 1000 * verdict.resetAt ≤ t →
        ((l.behind events).bucketOf client t).unitsAt t = settings.requests * scale) ∧
      ∃ first, IsLeast {t | instant clock ≤ t ∧ b.unitsAt t = settings.requests * scale} first ∧
        (1000 * verdict.resetAt : ℚ) <
          first + (settings.window * 1000) / (1000 * settings.requests) + 1000) := by
  have hnow := instant_nonneg clock
  have hkeeps := keeps_behind hsettings hclock
  have hnext := hkeeps.checkAt hsettings hnow client
  obtain ⟨-, hsizes, horder⟩ := hnext.inOrder client b hb
  obtain ⟨hreset, hremaining⟩ := hkeeps.checkAt_snd hsettings hnow hb
  dsimp only
  constructor
  · intro remaining limit resetAt hallowed journal events hevents hsweep i answer hi
    obtain ⟨hsince, rfl⟩ := hremaining hallowed
    exact hnext.isAllowed_iff_lt hsettings hnow hb hsince hevents hsweep journal hi
  · intro hword
    obtain ⟨hfull, first, hfirst, hlate⟩ := Bucket.resetAt_spec horder hword
    have hlimit : b.limit = settings.requests * scale := by rw [Bucket.limit, hsizes.capacity_eq]
    rw [hreset]
    refine ⟨?_, first, hlimit ▸ hfirst, ?_⟩
    · intro events hevents t ht
      exact hnext.unitsAt_behind hb hevents (hfull t ht)
    · have hrequests := hsettings.requests
      have hpos : (0 : ℚ) < 1000 * settings.requests := by positivity
      rw [hsizes.window_eq, hlimit, scale] at hlate
      have hlate : (1000 * (b.resetAt (instant clock) : ℚ)) * (settings.requests * 1000) <
          (first + 1000) * (settings.requests * 1000) + settings.window * 1000 := by
        exact_mod_cast hlate
      rw [← sub_lt_iff_lt_add, ← sub_lt_iff_lt_add', lt_div_iff₀ hpos]
      linarith

/-- A client that has a token left, while another one asks in between. -/
theorem remaining_and_resetAt_pair :
    let l := behind { settings := pair } [(0, .check "ben")]
    (l.checkAt "ann" (instant 2)).2 = .allowed 1 2 2 ∧
      (∀ i answer, (answersTo "ann" ((l.checkAt "ann" (instant 2)).1.answers {} [(2, .check "ann"),
        (2, .sweep), (2, .check "ben"), (2, .check "ann")]))[i]? = some answer →
          (answer.isAllowed = true ↔ i < 1)) ∧
      ∀ t, 2000 ≤ t → (((l.checkAt "ann" (instant 2)).1.behind [(900, .check "ben")]).bucketOf
        "ann" t).unitsAt t = 2000 := by
  have hpair : Moderate pair := ⟨by decide, by decide, by decide⟩
  have hverdict : ((behind { settings := pair } [(0, .check "ben")]).checkAt "ann"
      (instant 2)).2 = .allowed 1 2 2 := by decide +kernel
  have hb : ((behind { settings := pair } [(0, .check "ben")]).checkAt "ann"
      (instant 2)).1.buckets.lookup "ann" = some ⟨2, 3000, 1000, 2⟩ := by decide +kernel
  obtain ⟨hremaining, hreset⟩ := remaining_and_resetAt hpair (by decide) hb
  refine ⟨hverdict, ?_, ?_⟩
  · exact hremaining 1 2 2 hverdict {} _ (by decide) fun _ _ _ ↦ by decide
  · intro t ht
    refine (hreset (by decide)).1 _ (by simp) t ?_
    rw [hverdict]
    exact ht

/-- As `pair`, but a bucket may be dropped as soon as it is asked. -/
def fleeting : RateSettings := { requests := 2, window := 3, recordLifetime := 0 }

/-- When buckets are dropped as soon as they are asked, a client is let through more often than it
was told. When the seconds cannot be told in a word, a bucket is not full from the second on that is
told. -/
theorem told_otherwise :
    (Moderate fleeting ∧
      answersTo "ann" (answers { settings := fleeting } {}
          [(0, .check "ann"), (0, .sweep), (0, .check "ann"), (0, .check "ann")]) =
        [.allowed 1 2 2, .allowed 1 2 2, .allowed 0 2 3]) ∧
    (Moderate scarce ∧
      let l := (checkAt "ann" (instant (2 ^ 63 - 1000)) { settings := scarce }).1
      let verdict := (checkAt "ann" (instant (2 ^ 63 - 1000)) { settings := scarce }).2
      1000 * verdict.resetAt ≤ 2 ^ 63 - 1000 ∧
        (l.bucketOf "ann" (2 ^ 63 - 1000)).unitsAt (2 ^ 63 - 1000) < scarce.requests * scale) := by
  refine ⟨⟨⟨?_, ?_, ?_⟩, ?_⟩, ⟨?_, ?_, ?_⟩, ?_⟩ <;> decide +kernel

end Limiter

end Mailroom.Rate
