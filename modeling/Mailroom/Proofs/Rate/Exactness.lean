import Mailroom.Proofs.Rate.Outlook
import Mailroom.Settings.Load

/-!
# When the numbers of a limiter are exact

Numbers are words of 64 bits, and settings have no upper bound, so a product may lose its upper bits
and a large word may be taken for a negative number. The largest numbers come up when a bucket has
just been emptied and the clock shows its latest time: the missing units are then all units of the
bucket, and they take the whole window to flow in. If these numbers fit into their words, so does
every other one (`FitsWords`), whatever the clients do and however the clock jumps; if they do not,
a client that empties its bucket is told something else than the exact numbers.

The lifetime of a bucket is a number for itself. If it does not fit, buckets are dropped that have
not lived for their lifetime.
-/

namespace Mailroom.Rate

namespace Bucket

variable {b : Bucket} {now : Int} {settings : RateSettings} {latest : Int}

/-! ## Exact numbers -/

/-- Every number that comes up when a bucket is asked for anything at an instant is the exact one,
and so are the answers. -/
structure Exact (b : Bucket) (now : Int) : Prop where
  limit_lt : b.limit < 2 ^ 64
  elapsed : signedWord (now - b.since) = now - b.since
  unitsAt : b.unitsAt now = min (b.units + b.flow (now - b.since)) b.limit
  unitsAt_le : b.unitsAt now ≤ b.limit
  available_lt : b.available now < 2 ^ 32
  awaited : word ((scale - b.unitsAt now) * b.window) = (scale - b.unitsAt now) * b.window
  missing : word ((b.limit - b.unitsAt now) * b.window) = (b.limit - b.unitsAt now) * b.window
  refill : signedWord (b.refilledAt now - now) = b.refilledAt now - now
  refilledAt : signedWord (b.refilledAt now + 999) = b.refilledAt now + 999
  retryAfter : b.unitsAt now < scale →
    b.retryAfter now = max (ceilDiv ((scale - b.unitsAt now) * b.window / b.limit) 1000) 1
  resetAt : b.resetAt now = (b.refilledAt now + 999) / 1000

/-- A bucket as a limiter makes them, while the clock shows no later time. -/
structure Made (settings : RateSettings) (latest : Int) (b : Bucket) : Prop where
  capacity_eq : b.capacity = settings.requests
  window_eq : b.window = max (Limiter.window { settings }) 1
  units_le : b.units ≤ b.limit
  since_nonneg : 0 ≤ b.since
  since_le : b.since ≤ latest

namespace Made

theorem full (hnow : 0 ≤ now) (hle : now ≤ latest) :
    (full settings.requests (Limiter.window { settings }) now).Made settings latest :=
  ⟨rfl, rfl, le_refl _, hnow, hle⟩

theorem tried (h : b.Made settings latest) (hle : now ≤ latest) :
    (b.tried now).Made settings latest where
  capacity_eq := (b.tried_capacity now).trans h.capacity_eq
  window_eq := (b.tried_window now).trans h.window_eq
  units_le := by
    rw [tried_limit]
    exact tried_units_le h.units_le now
  since_nonneg := h.since_nonneg.trans (b.since_le_after [now])
  since_le := by
    rw [← after_nil (b.tried now), ← after_cons]
    exact after_since_le h.since_le (by simpa)

end Made

/-! ## Numbers that fit -/

/-- A bucket tells the exact numbers if its volume and the latest second fit into their words. -/
theorem Made.exact (h : b.Made settings latest) (hrequests : 1 ≤ settings.requests)
    (hwords : settings.requests < 2 ^ 32) (hnow : 0 ≤ now) (hle : now ≤ latest)
    (hvolume : b.window * b.limit < 2 ^ 64) (hlatest : latest + b.window + 999 < 2 ^ 63) :
    b.Exact now := by
  have hwindow : 0 < b.window := h.window_eq ▸ Nat.le_max_right _ _
  have hscale : scale ≤ b.limit := Nat.le_mul_of_pos_left scale (h.capacity_eq.symm ▸ hrequests)
  have hlimit : 0 < b.limit := lt_of_lt_of_le (by decide) hscale
  have hmillis : ceilDiv ((b.limit - b.unitsAt now) * b.window) b.limit ≤ b.window := by
    rw [ceilDiv_le_iff hlimit, Nat.mul_comm]
    exact Nat.mul_le_mul_left _ (Nat.sub_le _ _)
  have hrefilled : now ≤ b.refilledAt now ∧ b.refilledAt now ≤ latest + b.window := by
    rw [refilledAt]
    omega
  have hsince := And.intro h.since_nonneg h.since_le
  exact {
    limit_lt := by
      rw [limit, h.capacity_eq, scale]
      omega
    elapsed := signedWord_of_le (by omega) (by omega)
    unitsAt := unitsAt_eq_of_volume hwindow hvolume now
    unitsAt_le := b.unitsAt_le_limit now
    available_lt := by
      have hwhole := Nat.div_le_div_right (c := scale) (b.unitsAt_le_limit now)
      rw [limit, Nat.mul_div_cancel _ (by decide), h.capacity_eq] at hwhole
      exact hwhole.trans_lt hwords
    awaited := word_of_lt (mul_window_lt hvolume ((Nat.sub_le _ _).trans hscale))
    missing := word_of_lt (mul_window_lt hvolume (Nat.sub_le _ _))
    refill := signedWord_of_lt (by omega) (by omega)
    refilledAt := signedWord_of_lt (by omega) (by omega)
    retryAfter := retryAfter_eq hscale hvolume
    resetAt := resetAt_eq hnow hlimit hvolume (by omega) }

/-! ## Emptied buckets -/

/-- A full bucket gives all its tokens at the same instant. -/
theorem full_after_replicate (capacity window : Nat) (now : Int) {n : Nat} (hn : n ≤ capacity) :
    (full capacity window now).after (List.replicate n now) =
      ⟨capacity, max window 1, (capacity - n) * scale, now⟩ := by
  induction n with
  | zero => rfl
  | succ n ih =>
    have hunits : (⟨capacity, max window 1, (capacity - n) * scale, now⟩ : Bucket).unitsAt now =
        (capacity - n) * scale :=
      unitsAt_of_since_eq (Nat.mul_le_mul_right scale (Nat.sub_le capacity n)) rfl
    have hsplit : capacity - n = capacity - (n + 1) + 1 := by omega
    rw [List.replicate_succ', after_append, ih (by omega), after_cons, after_nil]
    apply tried_of_some
    rw [take?_eq_some_iff, hunits, hsplit, Nat.succ_mul, Nat.add_sub_cancel, max_self]
    exact ⟨Nat.le_add_left _ _, rfl⟩

/-- If the numbers of an empty bucket are exact, its volume and the second at which it is full again
fit into their words. -/
theorem fits_of_exact_empty {capacity window : Nat} (hcapacity : 1 ≤ capacity)
    (h : Exact ⟨capacity, window, 0, now⟩ now) :
    capacity * scale * window < 2 ^ 64 ∧ now + window + 999 < 2 ^ 63 := by
  have hunits : unitsAt ⟨capacity, window, 0, now⟩ now = 0 :=
    unitsAt_of_since_eq (b := ⟨capacity, window, 0, now⟩) (Nat.zero_le _) rfl
  have hlimit : 0 < capacity * scale := Nat.mul_pos hcapacity (by decide)
  have hrefilled : refilledAt ⟨capacity, window, 0, now⟩ now = now + window := by
    rw [refilledAt, hunits, Nat.sub_zero, ceilDiv, limit, Nat.mul_mod_right, if_pos rfl,
      Nat.mul_div_cancel_left _ hlimit, add_zero]
  have hmissing := h.missing
  have hlatest := signedWord_lt (now + window + 999)
  rw [hunits, word_eq_iff] at hmissing
  rw [← hrefilled, h.refilledAt, hrefilled] at hlatest
  exact ⟨hmissing, hlatest⟩

end Bucket

namespace Limiter

variable {settings : RateSettings} {l : Limiter} {client other : String} {now latest : Int}

/-! ## What is done to a bucket -/

theorem bucketOf_put (l : Limiter) (client : String) (b : Bucket) (now : Int) :
    (l.put client b).bucketOf client now = b := by
  rw [bucketOf, lookup_put_self, Option.getD_some]

theorem isAllowed_checkAt (hon : l.settings.enabled = true) (client : String) (now : Int) :
    (l.checkAt client now).2.isAllowed = ((l.bucketOf client now).take? now).isSome := by
  have henabled : (!l.settings.enabled) = false := by rw [hon, Bool.not_true]
  rw [checkAt, henabled]
  dsimp only
  cases (l.bucketOf client now).take? now with
  | none => rfl
  | some b => rfl

/-- Behind an act a client has the bucket that it had, or it has asked just now and has its bucket
behind that. -/
theorem lookup_performed_eq_some {act : Act} {b : Bucket} (hl : l.Distinct)
    (h : (l.performed now act).1.buckets.lookup client = some b) :
    (l.buckets.lookup client = some b ∧
      (act = .check client → l.settings.enabled = false)) ∨
    (act = .check client ∧ l.settings.enabled = true ∧
      b = (l.bucketOf client now).tried now) := by
  by_cases hact : act = .check client
  · subst hact
    cases hon : l.settings.enabled with
    | false =>
      rw [performed, checkAt_of_disabled hon] at h
      exact .inl ⟨h, fun _ ↦ rfl⟩
    | true =>
      rw [performed, checkAt_fst hon, lookup_put_self, Option.some_inj] at h
      exact .inr ⟨rfl, rfl, h.symm⟩
  · refine .inl ⟨?_, fun heq ↦ absurd heq hact⟩
    rcases lookup_performed hl hact now with hsame | hnone
    · exact hsame ▸ h
    · rw [hnone] at h
      cases h

theorem behind_append (l : Limiter) (before later : List (Int × Act)) :
    l.behind (before ++ later) = (l.behind before).behind later := List.foldl_append

theorem distinct_fresh (settings : RateSettings) : Distinct { settings } := List.nodup_nil

theorem distinct_behind (hl : l.Distinct) (events : List (Int × Act)) :
    (l.behind events).Distinct := by
  induction events generalizing l with
  | nil => exact hl
  | cons e events ih => exact ih (distinct_performed hl (instant e.1) e.2)

/-- While only one client asks, its bucket is asked again and again. -/
theorem bucketOf_behind_replicate (hon : l.settings.enabled = true) (client : String) (clock : Int)
    (n : Nat) :
    (l.behind (List.replicate n (clock, .check client))).bucketOf client (instant clock) =
      (l.bucketOf client (instant clock)).after (List.replicate n (instant clock)) := by
  induction n generalizing l with
  | zero => rfl
  | succ n ih =>
    rw [List.replicate_succ, List.replicate_succ, behind_cons, performed, Bucket.after_cons,
      checkAt_fst hon, ih (l := l.put ..) hon, bucketOf_put]

/-! ## When clients were let through -/

/-- The instants at which a client is let through. -/
def admissions (client : String) (l : Limiter) : List (Int × Act) → List Int
  | [] => []
  | (clock, act) :: later =>
    let (l', answer) := l.performed (instant clock) act
    let first := if answer.any fun a ↦ a.1 = client && a.2.isAllowed then [instant clock] else []
    first ++ admissions client l' later

theorem admissions_append (client : String) (l : Limiter) (before later : List (Int × Act)) :
    admissions client l (before ++ later) =
      admissions client l before ++ admissions client (l.behind before) later := by
  induction before generalizing l with
  | nil => rfl
  | cons e before ih =>
    rw [List.cons_append, admissions, admissions, behind_cons]
    dsimp only
    rw [ih, List.append_assoc]

theorem admissions_of_ne {act : Act} (hact : act ≠ .check client) (l : Limiter) (clock : Int) :
    admissions client l [(clock, act)] = [] := by
  cases act with
  | sweep => rfl
  | check other =>
    have hne : other ≠ client := fun h ↦ hact (congrArg Act.check h)
    simp [admissions, performed, hne]

theorem admissions_self (hon : l.settings.enabled = true) (client : String) (clock : Int) :
    admissions client l [(clock, .check client)] =
      if ((l.bucketOf client (instant clock)).take? (instant clock)).isSome then [instant clock]
      else [] := by
  rw [← isAllowed_checkAt hon]
  simp [admissions, performed]

/-- The time of the last taking stays the latest of the instants at which a token was given. -/
theorem isGreatest_tried {b : Bucket} {own : List Int} (h : IsGreatest {t | t ∈ own} b.since)
    (now : Int) :
    IsGreatest {t | t ∈ own ++ if (b.take? now).isSome then [now] else []}
      (b.tried now).since := by
  cases ht : b.take? now with
  | none => simpa [Bucket.tried_of_none ht] using h
  | some b' =>
    have hset : {t | t ∈ own ++ [now]} = {t | t ∈ own} ∪ {now} := by
      ext t
      simp [or_comm]
    rw [Bucket.tried_of_some ht, Bucket.take?_since ht, Option.isSome_some, if_pos rfl, hset]
    exact h.union isGreatest_singleton

/-- A new bucket gives a token when it is made. -/
theorem isGreatest_tried_full (hrequests : 1 ≤ settings.requests) (window : Nat) (now : Int) :
    IsGreatest {t | t ∈ [now]} ((Bucket.full settings.requests window now).tried now).since := by
  obtain ⟨b, ht⟩ := Option.isSome_iff_exists.mp (Bucket.full_take?_isSome hrequests window now)
  have hsince : b.since = now := (Bucket.take?_since ht).trans (max_self now)
  rw [Bucket.tried_of_some ht, hsince]
  simp

/-- However the clock jumps, a bucket in a limiter is as a limiter makes them, and the time of its
last taking is the latest instant at which its client was let through since it was made. -/
theorem made_behind (hrequests : 1 ≤ settings.requests) {events : List (Int × Act)}
    (hclock : ∀ e ∈ events, instant e.1 ≤ latest) {b : Bucket}
    (hb : (behind { settings } events).buckets.lookup client = some b) :
    settings.enabled = true ∧ b.Made settings latest ∧
      ∃ earlier own, admissions client { settings } events = earlier ++ own ∧
        IsGreatest {t | t ∈ own} b.since := by
  induction events using List.reverseRecOn generalizing b with
  | nil => cases hb
  | append_singleton events e ih =>
    obtain ⟨clock, act⟩ := e
    have ih {b : Bucket} (hb : (behind { settings } events).buckets.lookup client = some b) :=
      ih (fun e he ↦ hclock e (by simp [he])) hb
    have hle : instant clock ≤ latest := hclock (clock, act) (by simp)
    have hsettings : (behind { settings } events).settings = settings := settings_behind _ _
    rw [behind_append] at hb
    rw [admissions_append]
    have hdistinct := distinct_behind (distinct_fresh settings) events
    rcases lookup_performed_eq_some hdistinct hb with ⟨hkept, hoff⟩ | ⟨rfl, hon, rfl⟩
    -- Nobody asks for a token of this client, for then its bucket would be another one.
    · obtain ⟨hon, hmade, earlier, own, hown, hlast⟩ := ih hkept
      have hact : act ≠ .check client := fun hact ↦ by
        rw [hsettings, hon] at hoff
        exact Bool.noConfusion (hoff hact)
      exact ⟨hon, hmade, earlier, own, by rw [admissions_of_ne hact, List.append_nil, hown], hlast⟩
    · have henabled : settings.enabled = true := hsettings ▸ hon
      rw [admissions_self hon]
      cases hfound : (behind { settings } events).buckets.lookup client with
      | none =>
        have hfresh : (behind { settings } events).bucketOf client (instant clock) =
            .full settings.requests (window { settings }) (instant clock) := by
          rw [bucketOf, hfound, Option.getD_none, window, window, hsettings]
        have hgiven := Bucket.full_take?_isSome hrequests (window { settings }) (instant clock)
        rw [hfresh, if_pos hgiven]
        exact ⟨henabled, (Bucket.Made.full (instant_nonneg clock) hle).tried hle, _, _, rfl,
          isGreatest_tried_full hrequests _ _⟩
      | some b =>
        obtain ⟨-, hmade, earlier, own, hown, hlast⟩ := ih hfound
        have hsame : (behind { settings } events).bucketOf client (instant clock) = b := by
          rw [bucketOf, hfound, Option.getD_some]
        rw [hsame, hown, List.append_assoc]
        exact ⟨henabled, hmade.tried hle, earlier, _, rfl, isGreatest_tried hlast _⟩

/-! ## Limiters -/

/-- Every number that comes up in a limiter at an instant is the exact one. -/
structure Exact (l : Limiter) (now : Int) : Prop where
  lifetime : l.lifetime = l.settings.recordLifetime * 1000
  window : l.settings.enabled = true → l.window = l.settings.window * 1000
  bucketOf : l.settings.enabled = true → ∀ client, (l.bucketOf client now).Exact now

/-- The largest numbers that come up with some settings, while the clock shows no later time, fit
into their words. -/
structure FitsWords (settings : RateSettings) (latest : Int) : Prop where
  lifetime_lt : settings.recordLifetime * 1000 < 2 ^ 63
  volume_lt : settings.enabled = true → settings.requests * settings.window * 10 ^ 6 < 2 ^ 64
  latest_lt : settings.enabled = true → latest + settings.window * 1000 + 999 < 2 ^ 63

/-- If the largest numbers fit, all of them do. -/
theorem exact_behind (hrequests : 1 ≤ settings.requests) (hwords : settings.requests < 2 ^ 32)
    (hwindow : 1 ≤ settings.window) (hfits : FitsWords settings latest)
    {events : List (Int × Act)} (hclock : ∀ e ∈ events, instant e.1 ≤ latest) (hnow : 0 ≤ now)
    (hle : now ≤ latest) : (behind { settings } events).Exact now := by
  have hsettings : (behind { settings } events).settings = settings := settings_behind _ _
  have hlimit (hon : settings.enabled = true) : settings.window * 1000 < 2 ^ 64 := by
    have := hfits.latest_lt hon
    omega
  refine ⟨?_, ?_, ?_⟩
  · rw [lifetime_eq_iff, hsettings]
    exact hfits.lifetime_lt
  · intro hon
    rw [hsettings] at hon
    exact window_eq_of_lt (hsettings.symm ▸ hlimit hon)
  · intro hon client
    rw [hsettings] at hon
    have hmade : ((behind { settings } events).bucketOf client now).Made settings latest := by
      rw [bucketOf]
      cases hfound : (behind { settings } events).buckets.lookup client with
      | some b => exact (made_behind hrequests hclock hfound).2.1
      | none =>
        rw [Option.getD_none, window, hsettings]
        exact .full hnow hle
    have hmillis : ((behind { settings } events).bucketOf client now).window =
        settings.window * 1000 := by
      rw [hmade.window_eq, window_eq_of_lt (l := { settings }) (hlimit hon)]
      exact max_eq_left (hwindow.trans (Nat.le_mul_of_pos_right _ (by decide)))
    refine hmade.exact hrequests hwords hnow hle ?_ ?_
    · rw [hmillis, Bucket.limit, hmade.capacity_eq, scale]
      have := hfits.volume_lt hon
      calc settings.window * 1000 * (settings.requests * 1000)
        _ = settings.requests * settings.window * 10 ^ 6 := by ring
        _ < 2 ^ 64 := this
    · rw [hmillis]
      exact_mod_cast hfits.latest_lt hon

/-- The bucket of a client that has just taken all its tokens comes up to the largest numbers. -/
theorem fitsWords_of_exact (hrequests : 1 ≤ settings.requests) (hwindow : 1 ≤ settings.window)
    (client : String) {clock : Int}
    (h : (behind { settings } (List.replicate settings.requests (clock, .check client))).Exact
      (instant clock)) : FitsWords settings (instant clock) := by
  have hsettings := settings_behind { settings }
    (List.replicate settings.requests (clock, .check client))
  have hfits (hon : settings.enabled = true) :
      settings.requests * scale * (settings.window * 1000) < 2 ^ 64 ∧
        instant clock + ↑(settings.window * 1000) + 999 < 2 ^ 63 := by
    have hmillis := h.window (hsettings.symm ▸ hon)
    have hbucket := h.bucketOf (hsettings.symm ▸ hon) client
    rw [window, hsettings, ← window] at hmillis
    rw [bucketOf_behind_replicate hon, bucketOf, List.lookup_nil, Option.getD_none,
      Bucket.full_after_replicate _ _ _ (le_refl _), Nat.sub_self, Nat.zero_mul, hmillis,
      max_eq_left (hwindow.trans (Nat.le_mul_of_pos_right _ (by decide)))] at hbucket
    exact Bucket.fits_of_exact_empty hrequests hbucket
  refine ⟨?_, fun hon ↦ ?_, fun hon ↦ ?_⟩
  · have hlifetime := lifetime_eq_iff.mp h.lifetime
    rwa [hsettings] at hlifetime
  · calc settings.requests * settings.window * 10 ^ 6
      _ = settings.requests * scale * (settings.window * 1000) := by
        rw [scale]
        ring
      _ < 2 ^ 64 := (hfits hon).1
  · exact_mod_cast (hfits hon).2

/-! ## Dropping buckets -/

/-- Buckets that were asked for a token within their lifetime are kept, and the others are
dropped. -/
def DropsByAge (l : Limiter) (now : Int) : Prop :=
  ∀ client b, l.buckets.lookup client = some b →
    ((l.swept now).buckets.lookup client = some b ↔
      now - b.since < l.settings.recordLifetime * 1000)

theorem dropsByAge_of_lt (hl : l.Distinct) (h : l.settings.recordLifetime * 1000 < 2 ^ 63)
    (now : Int) : l.DropsByAge now := by
  intro client b hb
  rw [lookup_swept hl, hb, Option.filter_eq_some_iff, lifetime_eq_iff.mpr h, decide_eq_true_iff]
  exact and_iff_right rfl

/-- A bucket that was asked at the beginning of time is dropped as soon as the lifetime has passed
that the words know of, which is never later than they can tell. -/
theorem lifetime_lt_of_dropsByAge (hrequests : 1 ≤ settings.requests)
    (hon : settings.enabled = true) (client : String)
    (h : ∀ clock < (2 ^ 63 : Int),
      (behind { settings } [(0, .check client)]).DropsByAge (instant clock)) :
    settings.recordLifetime * 1000 < 2 ^ 63 := by
  have hlimiter : behind { settings } [(0, .check client)] = put client
      ((Bucket.full settings.requests (window { settings }) 0).tried 0) { settings } :=
    checkAt_fst hon client 0
  have hsince : ((Bucket.full settings.requests (window { settings }) 0).tried 0).since = 0 :=
    List.mem_singleton.mp (isGreatest_tried_full hrequests _ 0).1
  have hlt : max (lifetime { settings }) 0 < 2 ^ 63 := max_lt (signedWord_lt _) (by norm_num)
  have hinstant : instant (max (lifetime { settings }) 0) = max (lifetime { settings }) 0 :=
    max_eq_right (le_max_right _ _)
  have hdrops := h _ hlt client _ (hlimiter ▸ lookup_put_self ..)
  rw [hlimiter, lookup_swept (distinct_put (distinct_fresh settings) ..), lookup_put_self,
    Option.filter_eq_some_iff, decide_eq_true_iff, hinstant, hsince, sub_zero] at hdrops
  have hold : ¬ max (lifetime { settings }) 0 < (settings.recordLifetime * 1000 : Int) :=
    fun hyoung ↦ (hdrops.mpr hyoung).2.not_ge (le_max_left _ _)
  exact_mod_cast (not_lt.mp hold).trans_lt hlt

/-! ## Settings that are accepted -/

theorem positive_of_validate {s : Settings} (h : s.validate = .ok ()) :
    1 ≤ s.rate.requests ∧ 1 ≤ s.rate.window := by
  have hpositive : ¬ (s.rate.requests = 0 ∨ s.rate.window = 0) := fun hzero ↦ by
    rw [Settings.validate, if_pos hzero] at h
    split_ifs at h
  omega

/-- Under accepted settings all numbers are exact, for every run and as long as the clock shows no
later time, if and only if the largest numbers fit into their words. Buckets are dropped by their
age if and only if their lifetime fits, and the age of a bucket is counted from the latest instant
at which its client was let through since it was made. -/
theorem exact_iff_fitsWords {s : Settings} (hvalid : s.validate = .ok ())
    (hwords : s.rate.requests < 2 ^ 32) (latest : Nat) :
    ((∀ events : List (Int × Act), (∀ e ∈ events, e.1 ≤ latest) → ∀ clock ≤ (latest : Int),
        (behind { settings := s.rate } events).Exact (instant clock)) ↔
      FitsWords s.rate latest) ∧
    ((∀ events : List (Int × Act), ∀ clock < (2 ^ 63 : Int),
        (behind { settings := s.rate } events).DropsByAge (instant clock)) ↔
      (s.rate.enabled = true → s.rate.recordLifetime * 1000 < 2 ^ 63)) ∧
    ∀ (events : List (Int × Act)) (client : String) (b : Bucket),
      (behind { settings := s.rate } events).buckets.lookup client = some b →
      ∃ earlier own, admissions client { settings := s.rate } events = earlier ++ own ∧
        IsGreatest {t | t ∈ own} b.since := by
  obtain ⟨hrequests, hwindow⟩ := positive_of_validate hvalid
  have hmade (events : List (Int × Act)) {client : String} {b : Bucket}
      (hb : (behind { settings := s.rate } events).buckets.lookup client = some b) :
      s.rate.enabled = true ∧ ∃ earlier own,
        admissions client { settings := s.rate } events = earlier ++ own ∧
          IsGreatest {t | t ∈ own} b.since := by
    obtain ⟨last, hlast⟩ := (events.map fun e ↦ instant e.1).finite_toSet.bddAbove
    have hclock (e) (he : e ∈ events) : instant e.1 ≤ last := hlast (List.mem_map.mpr ⟨e, he, rfl⟩)
    obtain ⟨hon, -, hown⟩ := made_behind hrequests hclock hb
    exact ⟨hon, hown⟩
  refine ⟨⟨fun h ↦ ?_, fun hfits events hclock clock hle ↦ ?_⟩, ⟨fun h hon ↦ ?_, ?_⟩,
    fun events client b hb ↦ (hmade events hb).2⟩
  -- The largest numbers come up when a client takes all its tokens at the latest time.
  · have hinstant : instant latest = latest := max_eq_right (Int.natCast_nonneg latest)
    have hclock (e : Int × Act) (he : e ∈ List.replicate s.rate.requests ((latest : Int), .check ""))
        : e.1 ≤ latest := by
      rw [List.eq_of_mem_replicate he]
    exact hinstant ▸ fitsWords_of_exact hrequests hwindow "" (h _ hclock _ (le_refl _))
  · have hinstant {clock : Int} (hle : clock ≤ latest) : instant clock ≤ latest :=
      max_le (Int.natCast_nonneg latest) hle
    exact exact_behind hrequests hwords hwindow hfits (fun e he ↦ hinstant (hclock e he))
      (instant_nonneg _) (hinstant hle)
  · exact lifetime_lt_of_dropsByAge hrequests hon "" fun clock hlt ↦ h _ clock hlt
  · intro hlifetime events clock _ client b hb
    have hsettings := settings_behind { settings := s.rate } events
    refine dropsByAge_of_lt (distinct_behind (distinct_fresh _) events) ?_ _ client b hb
    rw [hsettings]
    exact hlifetime (hmade events hb).1

/-- Accepted settings with a lifetime that does not fit into its word. -/
def everlasting : Settings where
  api := { key := some "k" }
  rate := { requests := 2, window := 3, recordLifetime := 10 ^ 16 }

/-- Under these settings some number is wrong within the first hour. -/
theorem exact_iff_fitsWords_everlasting :
    everlasting.validate = .ok () ∧ everlasting.rate.requests < 2 ^ 32 ∧
      ¬ ∀ events : List (Int × Act), (∀ e ∈ events, e.1 ≤ 3600000) → ∀ clock ≤ 3600000,
        (behind { settings := everlasting.rate } events).Exact (instant clock) := by
  have hvalid : everlasting.validate = .ok () := by decide
  refine ⟨hvalid, by decide, fun h ↦ ?_⟩
  have hfits := (exact_iff_fitsWords hvalid (by decide) 3600000).1.mp h
  exact absurd hfits.lifetime_lt (by decide)

/-- A bucket that was asked this very instant is dropped. -/
theorem swept_everlasting :
    everlasting.validate = .ok () ∧
      let l := behind { settings := everlasting.rate } [(0, .check "ann")]
      l.lifetime = -8446744073709551616 ∧ everlasting.rate.recordLifetime * 1000 = 10 ^ 19 ∧
        (∃ b, l.buckets.lookup "ann" = some b ∧ b.since = 0) ∧ (l.swept 0).buckets = [] := by
  decide

end Limiter

end Mailroom.Rate
