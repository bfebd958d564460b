import Mailroom.Proofs.Metrics

/-!
# What operations are made of

An operation that may log and count is put together from few things: an entry in the log, a look at
the clock, a change of the counters. `Journal.MadeOf` says so of an operation, with the changes that
there may be. What holds of these things, and is passed on when they are put together, holds of
every operation that is made of them.

One such property compares two journals. What has been logged is not looked at, so an operation does
the same with journals that tell the same time and have the same counters (`Journal.Agree`).
-/

namespace Mailroom

/-- A change of the counters that counts nothing but troubles. -/
def Metrics.IsTrouble (f : Metrics → Metrics) : Prop := ∀ m : Metrics, m.Noted (f m)

namespace Journal

variable {α β ε ε' : Type} {counts : (Metrics → Metrics) → Prop}

/-! ## Composition -/

/-- An operation is made of entries in the log, looks at the clock and certain changes of the
counters. -/
inductive MadeOf (counts : (Metrics → Metrics) → Prop) : {α : Type} → Journaled α → Prop where
  | pure {α : Type} (a : α) : MadeOf counts (pure a : Journaled α)
  | bind {α β : Type} {act : Journaled α} {f : α → Journaled β} (h : MadeOf counts act)
    (hf : ∀ a, MadeOf counts (f a)) : MadeOf counts (act >>= f)
  | log (e : Log.Event) : MadeOf counts (Journal.log e)
  | clock : MadeOf counts Journal.clock
  | count {f : Metrics → Metrics} (h : counts f) : MadeOf counts (Journal.count f)

namespace MadeOf

theorem weaken {counts' : (Metrics → Metrics) → Prop} {act : Journaled α} (h : MadeOf counts act)
    (hcounts : ∀ f, counts f → counts' f) : MadeOf counts' act := by
  induction h with
  | pure a => exact .pure a
  | bind _ _ ih ihf => exact ih.bind ihf
  | log e => exact .log e
  | clock => exact .clock
  | count h => exact .count (hcounts _ h)

theorem bindExcept {act : Attempt ε α} {f : α → Attempt ε β} (h : MadeOf counts act.run)
    (hf : ∀ a, MadeOf counts (f a).run) : MadeOf counts (act >>= f).run := by
  change MadeOf counts (act.run >>= ExceptT.bindCont f)
  apply h.bind
  intro o
  cases o with
  | ok a => exact hf a
  | error e => exact pure _

/-- An operation that cannot fail, among operations that may. -/
theorem lift {act : Journaled α} (h : MadeOf counts act) :
    MadeOf counts (liftM act : Attempt ε α).run := by
  change MadeOf counts (act >>= fun a ↦ Pure.pure (Except.ok a))
  exact h.bind fun a ↦ pure _

/-- Failing for a reason of one's own. -/
theorem adapt {act : Attempt ε α} (g : ε → ε') (h : MadeOf counts act.run) :
    MadeOf counts (ExceptT.adapt g act).run := by
  change MadeOf counts (Except.mapError g <$> act.run)
  rw [map_eq_pure_bind]
  exact h.bind fun o ↦ pure _

theorem mapM {f : α → Attempt ε β} (h : ∀ x, MadeOf counts (f x).run) (l : List α) :
    MadeOf counts (l.mapM f).run := by
  induction l with
  | nil =>
    rw [List.mapM_nil]
    exact pure _
  | cons x l ih =>
    rw [List.mapM_cons]
    exact bindExcept (h x) fun y ↦ bindExcept ih fun ys ↦ pure _

/-- An operation that counts nothing but troubles notes them. -/
theorem notes {act : Journaled α} (h : MadeOf Metrics.IsTrouble act) : Notes act := by
  induction h with
  | pure a => exact .pure a
  | bind _ _ ih ihf => exact ih.bind ihf
  | log e => exact .log e
  | clock => exact .clock
  | count h => exact .count h

end MadeOf

/-! ## Two journals -/

/-- Two journals tell the same time and have the same counters. -/
structure Alike (j j' : Journal) : Prop where
  now_eq : j.now = j'.now
  metrics_eq : j.metrics = j'.metrics

theorem Alike.refl (j : Journal) : j.Alike j := ⟨rfl, rfl⟩

/-- Two operations, with journals that are alike, have answers that are related, and leave journals
that are alike. -/
def Agree (act : Journaled α) (act' : Journaled β) (R : α → β → Prop) : Prop :=
  ∀ j j' : Journal, j.Alike j' →
    R (act.run j).1 (act'.run j').1 ∧ (act.run j).2.Alike (act'.run j').2

namespace Agree

variable {γ δ : Type} {R : α → β → Prop} {Q : γ → δ → Prop}

theorem pure {a : α} {b : β} (h : R a b) : Agree (pure a) (pure b) R := fun _ _ hj ↦ ⟨h, hj⟩

theorem bind {act : Journaled α} {act' : Journaled β} {f : α → Journaled γ} {f' : β → Journaled δ}
    (h : Agree act act' R) (hf : ∀ a b, R a b → Agree (f a) (f' b) Q) :
    Agree (act >>= f) (act' >>= f') Q := by
  intro j j' hj
  obtain ⟨ha, hjournals⟩ := h j j' hj
  exact hf _ _ ha _ _ hjournals

/-- What is logged may be different. -/
theorem log (e e' : Log.Event) : Agree (Journal.log e) (Journal.log e') Eq :=
  fun _ _ hj ↦ ⟨rfl, hj.now_eq, hj.metrics_eq⟩

theorem clock : Agree Journal.clock Journal.clock Eq := fun _ _ hj ↦ ⟨hj.now_eq, hj⟩

theorem count (f : Metrics → Metrics) : Agree (Journal.count f) (Journal.count f) Eq :=
  fun _ _ hj ↦ ⟨rfl, hj.now_eq, congrArg f hj.metrics_eq⟩

theorem within {span span' : Log.Span} {act : Journaled α} {act' : Journaled β}
    (h : Agree act act' R) : Agree (Journal.within span act) (Journal.within span' act') R := by
  intro j j' hj
  obtain ⟨ha, hjournals⟩ := h { j with spans := j.spans ++ [span] }
    { j' with spans := j'.spans ++ [span'] } ⟨hj.now_eq, hj.metrics_eq⟩
  exact ⟨ha, hjournals.now_eq, hjournals.metrics_eq⟩

end Agree

/-- An operation agrees with itself, whatever it counts. -/
theorem MadeOf.agree {act : Journaled α} (h : MadeOf counts act) : Agree act act Eq := by
  induction h with
  | pure a => exact .pure rfl
  | bind _ _ ih ihf =>
    refine ih.bind ?_
    rintro a _ rfl
    exact ihf a
  | log e => exact .log e e
  | clock => exact .clock
  | count _ => exact .count _

end Journal

end Mailroom
