import Mailroom.Proofs.Template.Tracking
import Mathlib.Data.List.Forall2

/-!
# Steps of a rendering that succeed

Total correctness of the steps of a rendering. There is one rule for each way in which steps are put
together.

* `Rendering.Succeeds now s act P`: from the stage `s` the step `act` comes to an answer and to a
  stage that have the property `P`.
* `Rendering.Tells now s act P`: the step `act` comes to an answer with the property `P`, and leaves
  the stage as it is.
-/

namespace Mailroom.Template.Rendering

open Journal (Gives)

variable {α β γ : Type} {now : Int} {s : Stage}

/-- From a stage a step comes to an answer and to a stage that have a property. -/
def Succeeds (now : Int) (s : Stage) (act : Rendering α) (P : α → Stage → Prop) : Prop :=
  Gives now (act.run s).run fun o ↦ ∃ x s', o = .ok (x, s') ∧ P x s'

/-- From a stage a step comes to an answer that has a property, and to the same stage. -/
def Tells (now : Int) (s : Stage) (act : Rendering α) (P : α → Prop) : Prop :=
  Succeeds now s act fun x s' ↦ s' = s ∧ P x

namespace Succeeds

variable {P P' : α → Stage → Prop} {Q : β → Stage → Prop} {I : Stage → Prop}

theorem pure {x : α} (h : P x s) : Succeeds now s (pure x) P := Gives.pure ⟨x, s, rfl, h⟩

theorem get {P : Stage → Stage → Prop} (h : P s s) : Succeeds now s get P :=
  Gives.pure ⟨s, s, rfl, h⟩

theorem set {P : Unit → Stage → Prop} {s' : Stage} (h : P () s') : Succeeds now s (set s') P :=
  Gives.pure ⟨(), s', rfl, h⟩

theorem modify {P : Unit → Stage → Prop} {f : Stage → Stage} (h : P () (f s)) :
    Succeeds now s (modify f) P := Gives.pure ⟨(), f s, rfl, h⟩

theorem bind {act : Rendering α} {f : α → Rendering β} (h : Succeeds now s act P)
    (hf : ∀ x s', P x s' → Succeeds now s' (f x) Q) : Succeeds now s (act >>= f) Q := by
  refine Gives.bindExcept h ?_ ?_
  · rintro _ ⟨x, s', ⟨⟩, hx⟩
    exact hf x s' hx
  · rintro e ⟨_, _, ⟨⟩, _⟩

theorem weaken {act : Rendering α} (h : Succeeds now s act P) (hP : ∀ x s', P x s' → P' x s') :
    Succeeds now s act P' := by
  refine Gives.weaken h ?_
  rintro _ ⟨x, s', rfl, hx⟩
  exact ⟨x, s', rfl, hP x s' hx⟩

/-- What is noted in a failure changes nothing for a step that does not fail. -/
theorem adapt {act : Rendering α} (note : RenderError → RenderError) (h : Succeeds now s act P) :
    Succeeds now s (fun s ↦ ExceptT.adapt note (act s)) P := by
  refine Gives.adapt h ?_
  rintro _ ⟨x, s', rfl, hx⟩
  exact ⟨x, s', rfl, hx⟩

theorem ofAttempt {act : Attempt Fault α}
    (h : Gives now act.run fun o ↦ ∃ x, o = .ok x ∧ P x s) :
    Succeeds now s (ofAttempt act) P := by
  have hadapt : Gives now (ExceptT.adapt (fun fault ↦ ({ fault } : RenderError)) act).run
      fun o ↦ ∃ x, o = .ok x ∧ P x s := by
    refine h.adapt ?_
    rintro _ ⟨x, rfl, hx⟩
    exact ⟨x, rfl, hx⟩
  refine hadapt.bindExcept ?_ ?_
  · rintro x ⟨_, ⟨⟩, hx⟩
    exact .pure ⟨x, s, rfl, hx⟩
  · rintro e ⟨_, ⟨⟩, _⟩

/-- Steps one after the other, each of which keeps an invariant. -/
theorem mapM {f : γ → Rendering β} {l : List γ} (hs : I s)
    (h : ∀ x ∈ l, ∀ s, I s → Succeeds now s (f x) fun _ s' ↦ I s') :
    Succeeds now s (l.mapM f) fun _ s' ↦ I s' := by
  induction l generalizing s with
  | nil =>
    rw [List.mapM_nil]
    exact pure hs
  | cons x l ih =>
    obtain ⟨hx, hl⟩ := List.forall_mem_cons.mp h
    rw [List.mapM_cons]
    exact (hx s hs).bind fun y s₁ h₁ ↦ (ih h₁ hl).bind fun ys s₂ h₂ ↦ pure h₂

/-- Steps one after the other, each of which knows its number. -/
theorem mapIdxM {f : Nat → γ → Rendering β} {l : List γ} (hs : I s)
    (h : ∀ i x, l[i]? = some x → ∀ s, I s → Succeeds now s (f i x) fun _ s' ↦ I s') :
    Succeeds now s (l.mapIdxM f) fun _ s' ↦ I s' := by
  have key : ∀ (rest : List γ) (acc : Array β) (s : Stage), I s →
      (∀ i x, rest[i]? = some x → ∀ s, I s →
        Succeeds now s (f (acc.size + i) x) fun _ s' ↦ I s') →
      Succeeds now s (List.mapIdxM.go f rest acc) fun _ s' ↦ I s' := by
    intro rest
    induction rest with
    | nil => exact fun acc s hs _ ↦ pure hs
    | cons x rest ih =>
      intro acc s hs h
      refine (h 0 x rfl s hs).bind fun y s' hs' ↦ ih (acc.push y) s' hs' fun i z hz ↦ ?_
      rw [Array.size_push, Nat.add_assoc, Nat.add_comm 1]
      exact h (i + 1) z hz
  refine key l #[] s hs fun i x hx ↦ ?_
  rw [List.size_toArray, List.length_nil, Nat.zero_add]
  exact h i x hx

end Succeeds

namespace Tells

variable {P : α → Prop} {Q : β → Stage → Prop}

theorem pure {x : α} (h : P x) : Tells now s (pure x) P := Succeeds.pure ⟨rfl, h⟩

theorem get : Tells now s get (· = s) := Succeeds.get ⟨rfl, rfl⟩

/-- A step that leaves the stage as it is, in front of another one. -/
theorem bind {act : Rendering α} {f : α → Rendering β} (h : Tells now s act P)
    (hf : ∀ x, P x → Succeeds now s (f x) Q) : Succeeds now s (act >>= f) Q := by
  refine Succeeds.bind h ?_
  rintro x _ ⟨rfl, hx⟩
  exact hf x hx

theorem ofExcept {o : Except Fault α} {x : α} (h : o = .ok x) :
    Tells now s (ofExcept o) (· = x) := by
  rw [h]
  exact pure rfl

theorem ofAttempt {act : Attempt Fault α} (h : Gives now act.run fun o ↦ ∃ x, o = .ok x ∧ P x) :
    Tells now s (ofAttempt act) P :=
  Succeeds.ofAttempt (h.weaken fun _ ⟨x, ho, hx⟩ ↦ ⟨x, ho, rfl, hx⟩)

/-- Steps one after the other, with something known of each of them. -/
theorem mapM {δ : Type} {f : γ → Rendering β} {S : γ → δ → Prop} {R : δ → β → Prop} {l : List γ}
    {ks : List δ} (hl : List.Forall₂ S l ks) (h : ∀ x k, S x k → Tells now s (f x) (R k)) :
    Tells now s (l.mapM f) (List.Forall₂ R ks) := by
  induction hl with
  | nil =>
    rw [List.mapM_nil]
    exact pure .nil
  | cons hx _ ih =>
    rw [List.mapM_cons]
    exact (h _ _ hx).bind fun y hy ↦ ih.bind fun ys hys ↦ pure (.cons hy hys)

end Tells

/-- What is done in a further scope leaves the scopes as they are. -/
theorem Succeeds.inScope {scope : Scope} {act : Rendering α} {P : α → Stage → Prop}
    (h : Succeeds now { s with scopes := scope :: s.scopes } act fun x s' ↦
      P x { s' with scopes := s.scopes }) :
    Succeeds now s (inScope scope act) P := by
  refine Tells.get.bind ?_
  rintro _ rfl
  refine (Succeeds.modify (P := fun _ s' ↦ s' = _) rfl).bind ?_
  rintro _ _ rfl
  exact h.bind fun x s' hx ↦ (Succeeds.modify hx).bind fun _ _ hx ↦ Succeeds.pure hx

theorem write_tells (text : String) : Tells now s (write text) fun _ ↦ True := by
  refine Tells.get.bind fun _ _ ↦ ?_
  split
  · exact Tells.pure trivial
  · exact Tells.pure trivial

theorem writeValue_tells (v : Json) : Tells now s (writeValue v) fun _ ↦ True := by
  refine Tells.get.bind fun _ _ ↦ ?_
  split
  · exact write_tells _
  · exact write_tells _

end Mailroom.Template.Rendering
