import Mailroom.Locale.Basic
import Mailroom.Metrics.Text
import Mailroom.Proofs.Journal

/-!
# What is counted

The counters of the service only change where an operation says so. `Journal.Leaves m act P` says of
an operation that begins with the counters `m` what it answers and what counters it leaves; there is
one rule for each way in which operations are put together. Rendering counts nothing but the
troubles that it meets on the way (`Metrics.Noted`).

What is told of the counters to others is read off by the name of a family: `Metrics.sum` adds the
counts of a family up whose labels have certain values.
-/

namespace Mailroom

/-! ## Sums of counts -/

namespace Tally

/-- The sum of the counts whose labels have certain values. -/
def totalOf (p : List String → Bool) (t : Tally) : Nat := total (t.filter fun e ↦ p e.1)

theorem totalOf_cons (p : List String → Bool) (e : List String × Nat) (t : Tally) :
    totalOf p (e :: t) = (if p e.1 then e.2 else 0) + totalOf p t := by
  rw [totalOf, List.filter_cons]
  split
  · rfl
  · exact (Nat.zero_add _).symm

theorem totalOf_increment (p : List String → Bool) (labels : List String) (t : Tally) :
    (t.increment labels).totalOf p = t.totalOf p + if p labels then 1 else 0 := by
  induction t with
  | nil =>
    rw [increment, totalOf_cons]
    exact Nat.add_comm _ _
  | cons e t ih =>
    obtain ⟨l, n⟩ := e
    rw [increment]
    split
    · rename_i heq
      subst heq
      rw [totalOf_cons, totalOf_cons]
      split
      · omega
      · rfl
    · rw [totalOf_cons, totalOf_cons, ih, Nat.add_assoc]

end Tally

namespace Metrics

theorem totalOf_byOutcome (p : List String → Bool) (t : Tally) :
    (byOutcome t).totalOf p = t.totalOf fun values ↦ p values.reverse := by
  induction t with
  | nil => rfl
  | cons e t ih =>
    rw [byOutcome, List.map_cons, Tally.totalOf_cons, Tally.totalOf_cons, ← ih]
    rfl

/-- The sum of the counts of a family whose labels have certain values, in the order in which they
are told. -/
def sum (m : Metrics) (name : String) (p : List String → Bool) : Nat :=
  ((m.families.find? fun f ↦ f.name = name).map fun f ↦ f.counts.totalOf p).getD 0

/-- The count of a family without labels. -/
def value (m : Metrics) (name : String) : Nat := m.sum name fun values ↦ values.isEmpty

variable {m m' : Metrics}

theorem sum_sent (p : List String → Bool) :
    m.sum "email_sent_total" p = m.sent.totalOf fun values ↦ p values.reverse :=
  totalOf_byOutcome p m.sent

theorem sum_renders (p : List String → Bool) :
    m.sum "email_renders_total" p = m.renders.totalOf fun values ↦ p values.reverse :=
  totalOf_byOutcome p m.renders

theorem value_compilations : m.value "email_template_compilations_total" = m.compilations := rfl

theorem value_allowed : m.value "email_ratelimit_allowed_total" = m.allowed := rfl

theorem value_denied : m.value "email_ratelimit_denied_total" = m.denied := rfl

/-! ## Troubles on the way -/

/-- The helpers that count that they were given nothing to work with. -/
def notingHelpers : List String := ["formatDate", "formatDateRange", "formatCurrency", "safe"]

/-- The counters that a rendering may leave: a helper was given nothing to work with, or a text was
taken from another locale or found in none. -/
inductive Noted (m : Metrics) : Metrics → Prop where
  | nothing : Noted m m
  | emptyValue {m' : Metrics} {helper : String} (hhelper : helper ∈ notingHelpers)
    (h : Noted m m') : Noted m (m'.emptyValue helper)
  | fellBack {m' : Metrics} (requested : String) (origin : Locale) (h : Noted m m') :
    Noted m (m'.fellBack requested origin.tag)
  | textMissing {m' : Metrics} (h : Noted m m') : Noted m m'.textMissing

theorem Noted.trans {m'' : Metrics} (h : m.Noted m') (h' : m'.Noted m'') : m.Noted m'' := by
  induction h' with
  | nothing => exact h
  | emptyValue hhelper _ ih => exact .emptyValue hhelper ih
  | fellBack requested origin _ ih => exact .fellBack requested origin ih
  | textMissing _ ih => exact .textMissing ih

/-- The counters that have to balance. -/
def books (m : Metrics) : Tally × Tally × Nat × Nat := (m.renders, m.sent, m.allowed, m.denied)

theorem Noted.books_eq (h : m.Noted m') : m'.books = m.books := by
  induction h with
  | nothing => rfl
  | emptyValue _ _ ih => exact ih
  | fellBack _ _ _ ih => exact ih
  | textMissing _ ih => exact ih

theorem Noted.compilations_eq (h : m.Noted m') : m'.compilations = m.compilations := by
  induction h with
  | nothing => rfl
  | emptyValue _ _ ih => exact ih
  | fellBack _ _ _ ih => exact ih
  | textMissing _ ih => exact ih

end Metrics

namespace Journal

variable {α β ε : Type} {m : Metrics}

/-! ## The counters behind an operation -/

/-- An operation that begins with some counters answers something and leaves counters with a
property. -/
def Leaves (m : Metrics) (act : Journaled α) (P : α → Metrics → Prop) : Prop :=
  ∀ j : Journal, j.metrics = m → P (act.run j).1 (act.run j).2.metrics

namespace Leaves

theorem pure {a : α} {P : α → Metrics → Prop} (h : P a m) : Leaves m (pure a) P :=
  fun _ hj ↦ hj ▸ h

theorem bind {act : Journaled α} {f : α → Journaled β} {P : α → Metrics → Prop}
    {Q : β → Metrics → Prop} (h : Leaves m act P) (hf : ∀ a m', P a m' → Leaves m' (f a) Q) :
    Leaves m (act >>= f) Q := fun j hj ↦ hf _ _ (h j hj) _ rfl

theorem bindExcept {act : Attempt ε α} {f : α → Attempt ε β} {P : Except ε α → Metrics → Prop}
    {Q : Except ε β → Metrics → Prop} (h : Leaves m act.run P)
    (hok : ∀ a m', P (.ok a) m' → Leaves m' (f a).run Q)
    (herror : ∀ e m', P (.error e) m' → Q (.error e) m') : Leaves m (act >>= f).run Q := by
  change Leaves m (act.run >>= ExceptT.bindCont f) Q
  refine h.bind fun o m' ho ↦ ?_
  cases o with
  | ok a => exact hok a m' ho
  | error e => exact pure (herror e m' ho)

/-- An operation that cannot fail, in front of one that may. -/
theorem lift {act : Journaled α} {f : α → Attempt ε β} {P : α → Metrics → Prop}
    {Q : Except ε β → Metrics → Prop} (h : Leaves m act P)
    (hf : ∀ a m', P a m' → Leaves m' (f a).run Q) :
    Leaves m ((liftM act : Attempt ε α) >>= f).run Q := fun j hj ↦ hf _ _ (h j hj) _ rfl

theorem weaken {act : Journaled α} {P Q : α → Metrics → Prop} (h : Leaves m act P)
    (hPQ : ∀ a m', P a m' → Q a m') : Leaves m act Q := fun j hj ↦ hPQ _ _ (h j hj)

theorem log {e : Log.Event} : Leaves m (Journal.log e) fun _ m' ↦ m' = m := fun _ hj ↦ hj

theorem clock : Leaves m Journal.clock fun _ m' ↦ m' = m := fun _ hj ↦ hj

theorem count {f : Metrics → Metrics} : Leaves m (Journal.count f) fun _ m' ↦ m' = f m :=
  fun _ hj ↦ congrArg f hj

theorem within {span : Log.Span} {act : Journaled α} {P : α → Metrics → Prop}
    (h : Leaves m act P) : Leaves m (Journal.within span act) P :=
  fun j hj ↦ h { j with spans := j.spans ++ [span] } hj

end Leaves

/-- An operation that counts nothing but troubles. -/
def Notes (act : Journaled α) : Prop := ∀ m, Leaves m act fun _ m' ↦ m.Noted m'

namespace Notes

theorem pure (a : α) : Notes (pure a : Journaled α) := fun _ ↦ .pure .nothing

theorem bind {act : Journaled α} {f : α → Journaled β} (h : Notes act) (hf : ∀ a, Notes (f a)) :
    Notes (act >>= f) := fun m ↦ (h m).bind fun a m' hm ↦ (hf a m').weaken fun _ _ ↦ hm.trans

theorem log (e : Log.Event) : Notes (Journal.log e) :=
  fun _ ↦ Leaves.log.weaken fun _ _ hm ↦ hm ▸ .nothing

theorem clock : Notes Journal.clock := fun _ ↦ Leaves.clock.weaken fun _ _ hm ↦ hm ▸ .nothing

theorem count {f : Metrics → Metrics} (h : ∀ m : Metrics, m.Noted (f m)) :
    Notes (Journal.count f) :=
  fun m ↦ Leaves.count.weaken fun _ _ hm ↦ hm ▸ h m

end Notes

end Journal

end Mailroom
