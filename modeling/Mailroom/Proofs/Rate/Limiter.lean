import Mailroom.Proofs.Journal
import Mailroom.Proofs.Rate.Refill
import Mailroom.Rate.Limiter

/-!
# Each client by itself

A limiter keeps a bucket for every client and drops the buckets that nothing was taken from for
their lifetime. While the clock does not go back, neither the other clients nor the dropping can be
noticed: a client gets the answers that one bucket gives which is made at the first request of this
client and is asked by nobody else. What carries the proof is that a bucket is full again when a
window has passed since the last taking; a lifetime is at least as long, so the new bucket that
takes the place of a dropped one holds as many units.
-/

namespace Mailroom.Rate

open Journal (Gives)

/-! ## One bucket -/

namespace Bucket

variable {b : Bucket} {now : Int}

/-- Ask for a token: the bucket behind that, and the answer. -/
def ask (b : Bucket) (now : Int) : Bucket × Verdict :=
  match b.take? now with
  | some b' => (b', .allowed (b'.available now) b.capacity (b'.resetAt now))
  | none => (b, .denied (b.retryAfter now) b.capacity (b.resetAt now))

/-- The answers of a bucket that is asked for tokens at some instants. -/
def answers (b : Bucket) : List Int → List Verdict
  | [] => []
  | now :: later => (b.ask now).2 :: (b.ask now).1.answers later

/-- The answers of a bucket that is made when it is asked for the first token. -/
def answersAnew (capacity window : Nat) : List Int → List Verdict
  | [] => []
  | first :: later => (full capacity window first).answers (first :: later)

theorem ask_fst (b : Bucket) (now : Int) : (b.ask now).1 = b.tried now := by
  unfold ask
  cases h : b.take? now with
  | none => rw [tried_of_none h]
  | some b' => rw [tried_of_some h]

/-- A bucket is full when a window has passed since the last taking. -/
theorem unitsAt_of_idle (hwindow : 0 < b.window) (hvolume : b.window * b.limit < Nat.pow 2 64)
    (h : b.since + b.window ≤ now) : b.unitsAt now = b.limit := by
  have hinflow : b.limit ≤ b.inflow (now - b.since) := by
    rw [inflow, Nat.le_div_iff_mul_le hwindow, Nat.mul_comm, Nat.le_min]
    constructor
    · apply Nat.mul_le_mul_right
      omega
    · omega
  exact min_eq_right (hinflow.trans (Nat.le_add_left _ _))

/-- What is left of a full bucket depends on nothing but its size. -/
theorem take?_of_full (hcapacity : 0 < b.capacity) (hunits : b.unitsAt now = b.limit)
    (hsince : b.since ≤ now) :
    b.take? now = some ⟨b.capacity, b.window, b.limit - scale, now⟩ := by
  have hscale : scale ≤ b.limit := Nat.le_mul_of_pos_left scale hcapacity
  rw [take?_eq_some_iff, hunits, max_eq_right hsince]
  exact ⟨hscale, rfl⟩

/-- A bucket that has been idle for a window answers like a new one. -/
theorem ask_of_idle (hwindow : 0 < b.window) (hcapacity : 0 < b.capacity)
    (hvolume : b.window * b.limit < Nat.pow 2 64) (h : b.since + b.window ≤ now) :
    b.ask now = (full b.capacity b.window now).ask now := by
  have hfull : (full b.capacity b.window now).take? now =
      some ⟨b.capacity, max b.window 1, b.limit - scale, now⟩ :=
    take?_of_full hcapacity (min_eq_right (Nat.le_add_right _ _)) (le_refl now)
  rw [max_eq_left (Nat.succ_le_of_lt hwindow)] at hfull
  have hidle := take?_of_full hcapacity (unitsAt_of_idle hwindow hvolume h)
    (show b.since ≤ now by omega)
  rw [ask, ask, hidle, hfull]
  rfl

end Bucket

/-! ## Settings -/

/-- Settings under which a client gets tokens, and no number is too large for a word. -/
structure Moderate (settings : RateSettings) : Prop where
  requests : 1 ≤ settings.requests
  window : 1 ≤ settings.window
  volume_lt : settings.requests * settings.window * 10 ^ 6 < 2 ^ 62

/-- Settings with which requests are limited, under which no number is too large for a word, and
which let a bucket live until it is full again. -/
structure Workable (settings : RateSettings) : Prop where
  enabled : settings.enabled = true
  requests : 1 ≤ settings.requests
  window : 1 ≤ settings.window
  window_le : settings.window ≤ settings.recordLifetime
  lifetime_lt : settings.recordLifetime * 1000 < 2 ^ 63
  volume_lt : settings.requests * settings.window * 10 ^ 6 < 2 ^ 62

theorem Workable.moderate {settings : RateSettings} (h : Workable settings) : Moderate settings :=
  ⟨h.requests, h.window, h.volume_lt⟩

namespace Limiter

variable {l : Limiter} {client other : String} {now : Int}

theorem window_eq_of_lt (h : l.settings.window * 1000 < 2 ^ 64) :
    l.window = l.settings.window * 1000 := min_eq_left (Nat.le_sub_one_of_lt h)

theorem window_eq (h : Moderate l.settings) : l.window = l.settings.window * 1000 := by
  have hle : l.settings.window ≤ l.settings.requests * l.settings.window :=
    Nat.le_mul_of_pos_left _ h.requests
  apply window_eq_of_lt
  calc l.settings.window * 1000
    _ ≤ l.settings.requests * l.settings.window * 10 ^ 6 := Nat.mul_le_mul hle (by decide)
    _ < 2 ^ 64 := h.volume_lt.trans (by decide)

theorem lifetime_eq_iff :
    l.lifetime = l.settings.recordLifetime * 1000 ↔ l.settings.recordLifetime * 1000 < 2 ^ 63 := by
  constructor
  · intro h
    have hlt := signedWord_lt (word (l.settings.recordLifetime * 1000))
    rw [← lifetime, h] at hlt
    exact_mod_cast hlt
  · intro h
    rw [lifetime, word_of_lt (by omega), signedWord_of_lt (by omega) (by omega)]
    push_cast
    rfl

theorem lifetime_eq (h : Workable l.settings) : l.lifetime = l.settings.recordLifetime * 1000 :=
  lifetime_eq_iff.mpr h.lifetime_lt

/-! ## What is done to a limiter -/

/-- A client asks for a token, or outlived buckets are dropped. -/
inductive Act where
  | check (client : String)
  | sweep

/-- Do something to a limiter. If a client asks for a token, there is an answer for this client. -/
def perform (l : Limiter) : Act → Journaled (Limiter × Option (String × Verdict))
  | .check client => do
    let (l, verdict) ← l.check client
    return (l, some (client, verdict))
  | .sweep => do
    let (l, _) ← l.sweep
    return (l, none)

/-- Who is answered what, if one thing after the other is done, each when the clock shows some
time. -/
def answers (l : Limiter) (journal : Journal) : List (Int × Act) → List (String × Verdict)
  | [] => []
  | (clock, act) :: later =>
    let ((l, answer), journal) := (l.perform act).run { journal with now := clock }
    answer.toList ++ l.answers journal later

/-- The answers to one client. -/
def answersTo (client : String) (given : List (String × Verdict)) : List Verdict :=
  (given.filter (·.1 = client)).map Prod.snd

/-- The instants at which one client asks for a token. -/
def instantsOf (client : String) : List (Int × Act) → List Int
  | [] => []
  | (clock, .check other) :: later =>
    if other = client then instant clock :: instantsOf client later else instantsOf client later
  | (_, .sweep) :: later => instantsOf client later

/-- What is done to a limiter at an instant. -/
def performed (l : Limiter) (now : Int) : Act → Limiter × Option (String × Verdict)
  | .check client => ((l.checkAt client now).1, some (client, (l.checkAt client now).2))
  | .sweep => (l.swept now, none)

theorem check_gives (l : Limiter) (client : String) (now : Int) :
    Gives now (l.check client) (· = l.checkAt client (instant now)) := by
  refine Gives.clock.bind fun clock hclock ↦ ?_
  rw [hclock]
  exact .pure rfl

theorem sweep_gives (l : Limiter) (now : Int) :
    Gives now l.sweep (·.1 = l.swept (instant now)) := by
  refine Gives.clock.bind fun clock hclock ↦ ?_
  rw [hclock]
  dsimp only
  split
  · exact Gives.log.bind fun _ _ ↦ .pure rfl
  · exact .pure rfl

theorem perform_gives (l : Limiter) (act : Act) (now : Int) :
    Gives now (l.perform act) (· = l.performed (instant now) act) := by
  cases act with
  | check client =>
    refine (l.check_gives client now).bind fun o ho ↦ ?_
    rw [ho]
    exact .pure rfl
  | sweep =>
    refine (l.sweep_gives now).bind fun o ho ↦ ?_
    rw [performed, ← ho]
    exact .pure rfl

/-! ## Buckets by client -/

/-- Of two clients each has its own bucket. -/
def Distinct (l : Limiter) : Prop := (l.buckets.map Prod.fst).Nodup

theorem lookup_filter {buckets : List (String × Bucket)} {p : String × Bucket → Bool}
    (h : (buckets.map Prod.fst).Nodup) (client : String) :
    (buckets.filter p).lookup client = (buckets.lookup client).filter fun b ↦ p (client, b) := by
  induction buckets with
  | nil => rfl
  | cons e buckets ih =>
    obtain ⟨hnew, hrest⟩ := List.nodup_cons.mp h
    rw [List.filter_cons]
    by_cases heq : client = e.1
    · subst heq
      rw [List.lookup_cons_self, Option.filter_some]
      split
      · exact List.lookup_cons_self
      · refine List.lookup_eq_none_iff.mpr fun e' he' ↦ bne_iff_ne.mpr fun heq ↦ hnew ?_
        exact List.mem_map.mpr ⟨e', List.mem_of_mem_filter he', heq.symm⟩
    · have hne : (client == e.1) = false := beq_eq_false_iff_ne.mpr heq
      rw [List.lookup_cons, hne, ← ih hrest]
      split
      · rw [List.lookup_cons, hne]
      · rfl

theorem distinct_filter (h : l.Distinct) (p : String × Bucket → Bool) :
    ((l.buckets.filter p).map Prod.fst).Nodup := h.sublist (List.filter_sublist.map _)

theorem distinct_put (h : l.Distinct) (client : String) (b : Bucket) :
    (l.put client b).Distinct := by
  have hnew : client ∉ (l.buckets.filter fun e ↦ e.1 != client).map Prod.fst := by simp
  exact List.nodup_cons.mpr ⟨hnew, distinct_filter h _⟩

theorem lookup_put_self (l : Limiter) (client : String) (b : Bucket) :
    (l.put client b).buckets.lookup client = some b := List.lookup_cons_self

theorem lookup_put_of_ne (hl : l.Distinct) (h : client ≠ other) (b : Bucket) :
    (l.put other b).buckets.lookup client = l.buckets.lookup client := by
  have hne : (client == other) = false := beq_eq_false_iff_ne.mpr h
  rw [put, List.lookup_cons, hne]
  dsimp only
  rw [lookup_filter hl]
  cases l.buckets.lookup client with
  | none => rfl
  | some b' => simp [h]

theorem lookup_swept (hl : l.Distinct) (now : Int) (client : String) :
    (l.swept now).buckets.lookup client =
      (l.buckets.lookup client).filter fun b ↦ now - b.since < l.lifetime := lookup_filter hl client

/-! ## A client and its bucket -/

/-- A bucket as a limiter makes them. -/
structure Sizes (settings : RateSettings) (b : Bucket) : Prop where
  capacity_eq : b.capacity = settings.requests
  window_eq : b.window = settings.window * 1000

/-- What a limiter may have for a client whose requests alone have brought a bucket to some state:
it has this bucket, or it has dropped it when it was full again. -/
inductive Stands (settings : RateSettings) (now : Int) : Option Bucket → Option Bucket → Prop where
  | unknown : Stands settings now none none
  | kept (b : Bucket) (sizes : Sizes settings b) : Stands settings now (some b) (some b)
  | dropped (b : Bucket) (sizes : Sizes settings b)
    (outlived : b.since + settings.recordLifetime * 1000 ≤ now) : Stands settings now none (some b)

/-- The bucket that is asked if a client is alone. -/
def own (settings : RateSettings) (now : Int) (alone : Option Bucket) : Bucket :=
  alone.getD (.full settings.requests (settings.window * 1000) now)

/-- The answers that a client gets if it is alone. -/
def answersAlone (settings : RateSettings) (alone : Option Bucket) : List Int → List Verdict :=
  alone.elim (Bucket.answersAnew settings.requests (settings.window * 1000)) Bucket.answers

variable {settings : RateSettings} {found alone : Option Bucket}

theorem answersAlone_nil (settings : RateSettings) (alone : Option Bucket) :
    answersAlone settings alone [] = [] := by
  cases alone with
  | none => rfl
  | some b => rfl

theorem answersAlone_cons (settings : RateSettings) (alone : Option Bucket) (now : Int)
    (later : List Int) :
    answersAlone settings alone (now :: later) = ((own settings now alone).ask now).2 ::
      answersAlone settings (some ((own settings now alone).ask now).1) later := by
  cases alone with
  | none => rfl
  | some b => rfl

theorem sizes_full (h : Moderate settings) (now : Int) :
    Sizes settings (.full settings.requests (settings.window * 1000) now) := by
  refine ⟨rfl, max_eq_left ?_⟩
  have hwindow := h.window
  omega

theorem Sizes.ask {b : Bucket} (h : Sizes settings b) (now : Int) :
    Sizes settings (b.ask now).1 := by
  rw [Bucket.ask_fst]
  exact ⟨(b.tried_capacity now).trans h.capacity_eq, (b.tried_window now).trans h.window_eq⟩

theorem Sizes.volume_lt {b : Bucket} (h : Sizes settings b) (hsettings : Moderate settings) :
    b.window * b.limit < 2 ^ 62 := by
  rw [Bucket.limit, h.capacity_eq, h.window_eq]
  calc settings.window * 1000 * (settings.requests * 1000)
    _ = settings.requests * settings.window * 10 ^ 6 := by ring
    _ < 2 ^ 62 := hsettings.volume_lt

namespace Stands

theorem sizes (hsettings : Moderate settings) (h : Stands settings now found alone) :
    Sizes settings (own settings now found) ∧ Sizes settings (own settings now alone) := by
  cases h with
  | unknown => exact ⟨sizes_full hsettings now, sizes_full hsettings now⟩
  | kept b sizes => exact ⟨sizes, sizes⟩
  | dropped b sizes => exact ⟨sizes_full hsettings now, sizes⟩

/-- The bucket that a limiter asks answers like the one of the client alone. -/
theorem ask_eq (hsettings : Workable settings) (h : Stands settings now found alone) :
    (own settings now found).ask now = (own settings now alone).ask now := by
  cases h with
  | unknown => rfl
  | kept b => rfl
  | dropped b sizes outlived =>
    have hwindow := hsettings.window
    have hlifetime := hsettings.window_le
    have hfresh : (own settings now none).ask now =
        (Bucket.full b.capacity b.window now).ask now := by
      rw [own, Option.getD_none, sizes.capacity_eq, sizes.window_eq]
    rw [hfresh, own, Option.getD_some]
    have hvolume : b.window * b.limit < Nat.pow 2 64 :=
      (sizes.volume_lt hsettings.moderate).trans (by decide)
    apply (Bucket.ask_of_idle _ _ hvolume _).symm
    · rw [sizes.window_eq]
      omega
    · rw [sizes.capacity_eq]
      exact hsettings.requests
    · rw [sizes.window_eq]
      omega

theorem later {now' : Int} (hclock : now ≤ now') (h : Stands settings now found alone) :
    Stands settings now' found alone := by
  cases h with
  | unknown => exact .unknown
  | kept b sizes => exact .kept b sizes
  | dropped b sizes outlived => exact .dropped b sizes (outlived.trans hclock)

/-- A bucket may be dropped when it has outlived its lifetime. -/
theorem filter (h : Stands settings now found alone) :
    Stands settings now (found.filter fun b ↦ now - b.since < settings.recordLifetime * 1000)
      alone := by
  cases h with
  | unknown => exact .unknown
  | dropped b sizes outlived => exact .dropped b sizes outlived
  | kept b sizes =>
    rw [Option.filter_some]
    split
    · exact .kept b sizes
    · rename_i hold
      have hold : settings.recordLifetime * 1000 ≤ now - b.since := by simpa using hold
      exact .dropped b sizes (by omega)

end Stands

/-! ## One act -/

theorem bucketOf_eq (h : Moderate l.settings) (client : String) (now : Int) :
    l.bucketOf client now = own l.settings now (l.buckets.lookup client) := by
  rw [bucketOf, window_eq h, own]

/-- A client that asks for a token is answered by its bucket, which is put in its place again. -/
theorem checkAt_eq (hl : Moderate l.settings) (hon : l.settings.enabled = true)
    (h : Sizes l.settings (own l.settings now (l.buckets.lookup client))) :
    l.checkAt client now =
      (l.put client ((own l.settings now (l.buckets.lookup client)).ask now).1,
        ((own l.settings now (l.buckets.lookup client)).ask now).2) := by
  have henabled : (!l.settings.enabled) = false := by rw [hon, Bool.not_true]
  rw [checkAt, henabled, bucketOf_eq hl, Bucket.ask, h.capacity_eq]
  dsimp only
  cases (own l.settings now (l.buckets.lookup client)).take? now with
  | none => rfl
  | some b => rfl

/-- Whatever the answer is, the client has its bucket behind that, and nobody else is touched. -/
theorem checkAt_fst (hon : l.settings.enabled = true) (client : String) (now : Int) :
    (l.checkAt client now).1 = l.put client ((l.bucketOf client now).tried now) := by
  have henabled : (!l.settings.enabled) = false := by rw [hon, Bool.not_true]
  rw [checkAt, henabled, Bucket.tried]
  dsimp only
  cases (l.bucketOf client now).take? now with
  | none => rfl
  | some b => rfl

theorem exists_checkAt (hon : l.settings.enabled = true) (client : String) (now : Int) :
    ∃ b, (l.checkAt client now).1 = l.put client b := ⟨_, checkAt_fst hon client now⟩

/-- What is known of a limiter at an instant, seen from a client whose requests alone have brought
a bucket to some state. -/
structure Serves (l : Limiter) (settings : RateSettings) (client : String) (now : Int)
    (alone : Option Bucket) : Prop where
  settings_eq : l.settings = settings
  workable : Workable settings
  distinct : l.Distinct
  stands : Stands settings now (l.buckets.lookup client) alone

namespace Serves

theorem later {now' : Int} (hclock : now ≤ now') (h : l.Serves settings client now alone) :
    l.Serves settings client now' alone := { h with stands := h.stands.later hclock }

/-- A request of the client is answered as if it were alone. -/
theorem check (h : l.Serves settings client now alone) :
    (l.checkAt client now).2 = ((own settings now alone).ask now).2 ∧
      (l.checkAt client now).1.Serves settings client now
        (some ((own settings now alone).ask now).1) := by
  obtain ⟨rfl, hworkable, hdistinct, hstands⟩ := h
  obtain ⟨hfound, halone⟩ := hstands.sizes hworkable.moderate
  rw [checkAt_eq hworkable.moderate hworkable.enabled hfound, hstands.ask_eq hworkable]
  refine ⟨rfl, rfl, hworkable, distinct_put hdistinct .., ?_⟩
  rw [lookup_put_self]
  exact .kept _ (halone.ask now)

/-- A request of another client goes unnoticed. -/
theorem checkOther (h : l.Serves settings client now alone) (hne : client ≠ other) :
    (l.checkAt other now).1.Serves settings client now alone := by
  obtain ⟨rfl, hworkable, hdistinct, hstands⟩ := h
  obtain ⟨b, hb⟩ := exists_checkAt hworkable.enabled other now
  rw [hb]
  refine ⟨rfl, hworkable, distinct_put hdistinct .., ?_⟩
  rw [lookup_put_of_ne hdistinct hne]
  exact hstands

/-- A sweep goes unnoticed. -/
theorem sweep (h : l.Serves settings client now alone) :
    (l.swept now).Serves settings client now alone := by
  obtain ⟨rfl, hworkable, hdistinct, hstands⟩ := h
  refine ⟨rfl, hworkable, distinct_filter hdistinct _, ?_⟩
  rw [lookup_swept hdistinct, lifetime_eq hworkable]
  exact hstands.filter

end Serves

/-! ## Many acts -/

theorem answersTo_append (client : String) (given later : List (String × Verdict)) :
    answersTo client (given ++ later) = answersTo client given ++ answersTo client later := by
  rw [answersTo, List.filter_append, List.map_append, answersTo, answersTo]

theorem answersTo_self (client : String) (verdict : Verdict) :
    answersTo client (some (client, verdict)).toList = [verdict] := by simp [answersTo]

theorem answersTo_of_ne (h : client ≠ other) (verdict : Verdict) :
    answersTo client (some (other, verdict)).toList = [] := by simp [answersTo, h.symm]

theorem answers_cons (l : Limiter) (journal : Journal) (clock : Int) (act : Act)
    (later : List (Int × Act)) :
    ∃ journal', l.answers journal ((clock, act) :: later) =
      (l.performed (instant clock) act).2.toList ++
        (l.performed (instant clock) act).1.answers journal' later := by
  obtain ⟨hanswer, -⟩ := l.perform_gives act clock { journal with now := clock } rfl
  rw [← hanswer]
  exact ⟨_, rfl⟩

/-- Whatever is done to a limiter, a client gets the answers that it would get if it were alone. -/
theorem Serves.answersTo_eq {events : List (Int × Act)}
    (h : l.Serves settings client now alone)
    (hclock : (now :: events.map fun e ↦ instant e.1).Pairwise (· ≤ ·)) (journal : Journal) :
    answersTo client (l.answers journal events) =
      answersAlone settings alone (instantsOf client events) := by
  induction events generalizing l now alone journal with
  | nil => exact (answersAlone_nil ..).symm
  | cons event events ih =>
    obtain ⟨clock, act⟩ := event
    rw [List.map_cons] at hclock
    obtain ⟨hnow, hlater⟩ := List.pairwise_cons.mp hclock
    have hserves := h.later (hnow (instant clock) List.mem_cons_self)
    obtain ⟨journal', hanswers⟩ := l.answers_cons journal clock act events
    rw [hanswers, answersTo_append]
    cases act with
    | sweep =>
      rw [instantsOf]
      exact ih hserves.sweep hlater journal'
    | check other =>
      rw [instantsOf]
      by_cases hother : other = client
      · subst hother
        obtain ⟨hverdict, hnext⟩ := hserves.check
        rw [if_pos rfl, answersAlone_cons, ← hverdict, performed, answersTo_self,
          List.singleton_append, ih hnext hlater]
      · have hne : client ≠ other := Ne.symm hother
        rw [if_neg hother, performed, answersTo_of_ne hne, List.nil_append]
        exact ih (hserves.checkOther hne) hlater journal'

theorem instant_mono {clock clock' : Int} (h : clock ≤ clock') : instant clock ≤ instant clock' :=
  max_le_max (le_refl 0) h

/-- While the clock does not go back, the answers to a client are those of one bucket that is made
when the client asks for the first time and is asked by nobody else, whatever other clients do and
whenever buckets are dropped. -/
theorem answersTo_fresh (hsettings : Workable settings) (journal : Journal)
    (events : List (Int × Act)) (hclock : (events.map Prod.fst).Pairwise (· ≤ ·))
    (client : String) :
    answersTo client (Limiter.answers { settings } journal events) =
      Bucket.answersAnew settings.requests (settings.window * 1000) (instantsOf client events) := by
  have hinstants : (0 :: events.map fun e ↦ instant e.1).Pairwise (· ≤ ·) := by
    refine List.pairwise_cons.mpr ⟨?_, ?_⟩
    · intro t ht
      obtain ⟨e, -, rfl⟩ := List.mem_map.mp ht
      exact le_max_left 0 e.1
    · exact List.pairwise_map.mpr ((List.pairwise_map.mp hclock).imp instant_mono)
  have hserves : Serves { settings } settings client 0 none :=
    ⟨rfl, hsettings, List.nodup_nil, .unknown⟩
  exact hserves.answersTo_eq hinstants journal

/-- One token for each client, which is there again after a second, and records that are dropped
after two seconds. -/
def scarce : RateSettings := { requests := 1, window := 1, recordLifetime := 2 }

/-- A client asks three times in all, and another one asks in between. By the third time, the record
of the first client has been dropped. -/
theorem answersTo_fresh_scarce :
    let events : List (Int × Act) := [(0, .check "ann"), (500, .check "ben"), (600, .check "ann"),
      (2000, .sweep), (2500, .check "ann")]
    answersTo "ann" (Limiter.answers { settings := scarce } {} events) =
        Bucket.answersAnew 1 1000 [0, 600, 2500] ∧
      Bucket.answersAnew 1 1000 [0, 600, 2500] =
        [.allowed 0 1 1, .denied 1 1 1, .allowed 0 1 4] := by
  have hscarce : Workable scarce := ⟨rfl, by decide, by decide, by decide, by decide, by decide⟩
  exact ⟨answersTo_fresh hscarce {} _ (by decide) "ann", by decide +kernel⟩

end Limiter

end Mailroom.Rate
