import Mailroom.Journal

/-!
# What an operation answers

Operations on the journal log and count, and they may look at the clock. No operation of the service
reads what was logged or counted before, and none of them moves the clock: what it answers at an
instant is the same with every journal. This module states that, and how it is passed on from the
parts of an operation to the whole.

* `Journal.Gives now act P`: at the instant `now`, the operation `act` answers something with the
  property `P`, whatever is in the journal, and the clock still stands at `now` afterwards.
* `Journal.Steady act`: at every instant there is one answer that `act` gives with every journal.
-/

namespace Mailroom

/-! ## Answers that may be failures -/

section

variable {ε α : Type} {o : Except ε α}

theorem bind_eq_ok {β : Type} {f : α → Except ε β} {b : β} :
    (o >>= f) = .ok b ↔ ∃ a, o = .ok a ∧ f a = .ok b := by
  cases o with
  | ok a =>
    constructor
    · exact fun h ↦ ⟨a, rfl, h⟩
    · rintro ⟨_, ⟨⟩, h⟩
      exact h
  | error e => exact iff_of_false nofun nofun

/-- If no item of a list fails, all that is given is given by one of them. -/
theorem exists_of_mapM_ok {β : Type} {f : α → Except ε β} {l : List α} {ys : List β}
    (h : l.mapM f = .ok ys) : ∀ y ∈ ys, ∃ x ∈ l, f x = .ok y := by
  induction l generalizing ys with
  | nil =>
    cases h
    exact List.forall_mem_nil _
  | cons x l ih =>
    rw [List.mapM_cons] at h
    obtain ⟨y, hy, h⟩ := bind_eq_ok.mp h
    obtain ⟨rest, hrest, h⟩ := bind_eq_ok.mp h
    cases h
    refine List.forall_mem_cons.mpr ⟨⟨x, List.mem_cons_self, hy⟩, fun z hz ↦ ?_⟩
    obtain ⟨w, hw, hz⟩ := ih hrest z hz
    exact ⟨w, List.mem_cons_of_mem _ hw, hz⟩

instance instDecidableForallOk {P : α → Prop} [DecidablePred P] :
    Decidable (∀ a, o = .ok a → P a) :=
  match o with
  | .ok a => decidable_of_iff (P a) ⟨fun h _ ha ↦ Except.ok.inj ha ▸ h, fun h ↦ h a rfl⟩
  | .error _ => isTrue nofun

instance instDecidableForallError {P : ε → Prop} [DecidablePred P] :
    Decidable (∀ e, o = .error e → P e) :=
  match o with
  | .ok _ => isTrue nofun
  | .error e => decidable_of_iff (P e) ⟨fun h _ he ↦ Except.error.inj he ▸ h, fun h ↦ h e rfl⟩

instance instDecidableExistsOk : Decidable (∃ a, o = .ok a) :=
  match o with
  | .ok a => isTrue ⟨a, rfl⟩
  | .error _ => isFalse nofun

end

namespace Journal

variable {α β ε ε' : Type} {now : Int}

/-! ## Answers with a property -/

/-- At an instant an operation answers something with a property, and takes no time. -/
def Gives (now : Int) (act : Journaled α) (P : α → Prop) : Prop :=
  ∀ j : Journal, j.now = now → P (act.run j).1 ∧ (act.run j).2.now = now

namespace Gives

theorem pure {a : α} {P : α → Prop} (h : P a) : Gives now (pure a) P := fun _ hj ↦ ⟨h, hj⟩

theorem bind {act : Journaled α} {f : α → Journaled β} {P : α → Prop} {Q : β → Prop}
    (h : Gives now act P) (hf : ∀ a, P a → Gives now (f a) Q) : Gives now (act >>= f) Q := by
  intro j hj
  obtain ⟨ha, hnow⟩ := h j hj
  exact hf _ ha _ hnow

/-- An operation that may fail hands its failure on. -/
theorem bindExcept {act : Attempt ε α} {f : α → Attempt ε β} {P : Except ε α → Prop}
    {Q : Except ε β → Prop} (h : Gives now act.run P)
    (hok : ∀ a, P (.ok a) → Gives now (f a).run Q) (herror : ∀ e, P (.error e) → Q (.error e)) :
    Gives now (act >>= f).run Q := by
  change Gives now (act.run >>= ExceptT.bindCont f) Q
  apply h.bind
  intro o ho
  cases o with
  | ok a => exact hok a ho
  | error e => exact pure (herror e ho)

/-- An operation that cannot fail, in front of one that may. -/
theorem lift {act : Journaled α} {f : α → Attempt ε β} {P : α → Prop} {Q : Except ε β → Prop}
    (h : Gives now act P) (hf : ∀ a, P a → Gives now (f a).run Q) :
    Gives now ((liftM act : Attempt ε α) >>= f).run Q := by
  intro j hj
  obtain ⟨ha, hnow⟩ := h j hj
  exact hf _ ha _ hnow

/-- Operations one after the other, up to the first one that fails. -/
theorem mapM {γ : Type} {f : γ → Attempt ε β} {g : γ → Except ε β} {l : List γ}
    (h : ∀ x ∈ l, Gives now (f x).run (· = g x)) : Gives now (l.mapM f).run (· = l.mapM g) := by
  induction l with
  | nil =>
    rw [List.mapM_nil, List.mapM_nil]
    exact pure rfl
  | cons x l ih =>
    rw [List.mapM_cons, List.mapM_cons]
    refine (h x (by simp)).bindExcept (fun y hy ↦ ?_) fun e he ↦ by rw [← he]; rfl
    rw [← hy]
    refine (ih fun z hz ↦ h z (by simp [hz])).bindExcept (fun ys hys ↦ ?_) fun e he ↦ by
      rw [← he]; rfl
    rw [← hys]
    exact pure rfl

/-- Failing for a reason of one's own. -/
theorem adapt {act : Attempt ε α} {g : ε → ε'} {P : Except ε α → Prop} {Q : Except ε' α → Prop}
    (h : Gives now act.run P) (hPQ : ∀ o, P o → Q (o.mapError g)) :
    Gives now (ExceptT.adapt g act).run Q := by
  intro j hj
  obtain ⟨ha, hnow⟩ := h j hj
  exact ⟨hPQ _ ha, hnow⟩

theorem weaken {act : Journaled α} {P Q : α → Prop} (h : Gives now act P)
    (hPQ : ∀ a, P a → Q a) : Gives now act Q := fun j hj ↦ ⟨hPQ _ (h j hj).1, (h j hj).2⟩

theorem log {e : Log.Event} : Gives now (Journal.log e) fun _ ↦ True := fun _ hj ↦ ⟨trivial, hj⟩

theorem count {f : Metrics → Metrics} : Gives now (Journal.count f) fun _ ↦ True :=
  fun _ hj ↦ ⟨trivial, hj⟩

theorem clock : Gives now Journal.clock (· = now) := fun _ hj ↦ ⟨hj, hj⟩

/-- What is done within a piece of work is answered as it would be by itself. -/
theorem within {span : Log.Span} {act : Journaled α} {P : α → Prop} (h : Gives now act P) :
    Gives now (Journal.within span act) P := by
  intro j hj
  exact h { j with spans := j.spans ++ [span] } hj

end Gives

/-! ## Steady operations -/

/-- What an operation answers at an instant with a journal in which there is nothing yet. -/
def answerAt (now : Int) (act : Journaled α) : α := (act.run { now }).1

/-- What an operation answers depends on the clock alone. -/
def Steady (act : Journaled α) : Prop := ∀ now, ∃ a, Gives now act (· = a)

theorem Gives.answerAt_eq {act : Journaled α} {a : α} (h : Gives now act (· = a)) :
    answerAt now act = a := (h { now } rfl).1

namespace Steady

/-- The one answer of a steady operation is the one that it gives with an empty journal. -/
theorem gives {act : Journaled α} (h : Steady act) (now : Int) :
    Gives now act (· = answerAt now act) := by
  obtain ⟨a, ha⟩ := h now
  rw [ha.answerAt_eq]
  exact ha

theorem pure (a : α) : Steady (pure a : Journaled α) := fun _ ↦ ⟨a, .pure rfl⟩

theorem bind {act : Journaled α} {f : α → Journaled β} (h : Steady act)
    (hf : ∀ a, Steady (f a)) : Steady (act >>= f) := by
  intro now
  obtain ⟨a, ha⟩ := h now
  obtain ⟨b, hb⟩ := hf a now
  exact ⟨b, ha.bind fun _ h ↦ h ▸ hb⟩

theorem bindExcept {act : Attempt ε α} {f : α → Attempt ε β} (h : Steady act.run)
    (hf : ∀ a, Steady (f a).run) : Steady (act >>= f).run := by
  change Steady (act.run >>= ExceptT.bindCont f)
  apply h.bind
  intro o
  cases o with
  | ok a => exact hf a
  | error e => exact pure _

/-- An operation that cannot fail, among operations that may. -/
theorem lift {act : Journaled α} (h : Steady act) : Steady (liftM act : Attempt ε α).run := by
  change Steady (act >>= fun a ↦ Pure.pure (Except.ok a))
  exact h.bind fun a ↦ pure _

theorem log (e : Log.Event) : Steady (Journal.log e) :=
  fun _ ↦ ⟨(), Gives.log.weaken fun _ _ ↦ rfl⟩

theorem count (f : Metrics → Metrics) : Steady (Journal.count f) :=
  fun _ ↦ ⟨(), Gives.count.weaken fun _ _ ↦ rfl⟩

theorem clock : Steady Journal.clock := fun now ↦ ⟨now, Gives.clock⟩

end Steady

end Journal

end Mailroom
