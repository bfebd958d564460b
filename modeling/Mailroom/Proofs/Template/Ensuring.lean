import Mailroom.Proofs.Template.Tracking

/-!
# What a rendering ensures

Partial correctness of the steps of a rendering. A step ensures something if it starts at a stage
with some invariant: unless it fails, its answer has the property, and the stage that it leaves
behind has the invariant again. As with the relations between steps, there is one rule for each way
in which steps are put together, and a step that only reads keeps every invariant.
-/

namespace Mailroom.Template.Rendering

open Journal (Gives Steady)

variable {α β γ : Type} {I : Stage → Prop} {P : α → Prop} {Q : β → Prop}

/-- From a stage with the invariant a step fails, or it comes to an answer with a property and to a
stage with the invariant. -/
def Ensures (I : Stage → Prop) (act : Rendering α) (P : α → Prop) : Prop :=
  ∀ s now, I s → Gives now (act.run s).run fun o ↦ ∀ x s', o = .ok (x, s') → P x ∧ I s'

namespace Ensures

theorem pure {x : α} (h : P x) : Ensures I (pure x) P := by
  intro s now hs
  refine .pure ?_
  rintro _ _ ⟨⟩
  exact ⟨h, hs⟩

theorem fail (fault : Fault) : Ensures I (fail fault : Rendering α) P :=
  fun _ _ _ ↦ .pure nofun

theorem get : Ensures I get I := by
  intro s now hs
  refine .pure ?_
  rintro _ _ ⟨⟩
  exact ⟨hs, hs⟩

theorem set {s : Stage} (h : I s) : Ensures I (set s) fun _ ↦ True := by
  intro _ now _
  refine .pure ?_
  rintro _ _ ⟨⟩
  exact ⟨trivial, h⟩

theorem modify {f : Stage → Stage} (h : ∀ s, I s → I (f s)) :
    Ensures I (modify f) fun _ ↦ True := by
  intro s now hs
  refine .pure ?_
  rintro _ _ ⟨⟩
  exact ⟨trivial, h s hs⟩

theorem bind {act : Rendering α} {f : α → Rendering β} (h : Ensures I act P)
    (hf : ∀ x, P x → Ensures I (f x) Q) : Ensures I (act >>= f) Q := by
  intro s now hs
  refine (h s now hs).bindExcept ?_ ?_
  · intro x hx
    obtain ⟨hP, hI⟩ := hx x.1 x.2 rfl
    exact hf x.1 hP x.2 now hI
  · rintro e - _ _ ⟨⟩

/-- What is noted in a failure changes nothing for a step that does not fail. -/
theorem adapt {act : Rendering α} (note : RenderError → RenderError) (h : Ensures I act P) :
    Ensures I (fun s ↦ ExceptT.adapt note (act s)) P := by
  intro s now hs
  refine (h s now hs).adapt ?_
  rintro (e | ⟨x, s'⟩) ho _ _ ⟨⟩
  exact ho x s' rfl

theorem mapM {f : γ → Rendering β} {l : List γ} (h : ∀ x ∈ l, Ensures I (f x) Q) :
    Ensures I (l.mapM f) fun ys ↦ ∀ y ∈ ys, Q y := by
  induction l with
  | nil =>
    rw [List.mapM_nil]
    exact pure (List.forall_mem_nil _)
  | cons x l ih =>
    obtain ⟨hx, hl⟩ := List.forall_mem_cons.mp h
    rw [List.mapM_cons]
    exact hx.bind fun y hy ↦ (ih hl).bind fun ys hys ↦
      pure (List.forall_mem_cons.mpr ⟨hy, hys⟩)

theorem mapIdxM {f : Nat → γ → Rendering β} (h : ∀ i x, Ensures I (f i x) Q) (l : List γ) :
    Ensures I (l.mapIdxM f) fun ys ↦ ∀ y ∈ ys, Q y := by
  have key : ∀ acc : Array β, (∀ y ∈ acc, Q y) →
      Ensures I (List.mapIdxM.go f l acc) fun ys ↦ ∀ y ∈ ys, Q y := by
    induction l with
    | nil => exact fun acc hacc ↦ pure fun y hy ↦ hacc y (Array.mem_toList_iff.mp hy)
    | cons x l ih =>
      refine fun acc hacc ↦ (h _ x).bind fun y hy ↦ ih (acc.push y) fun z hz ↦ ?_
      rcases Array.mem_push.mp hz with hz | rfl
      · exact hacc z hz
      · exact hy
  exact key #[] (by simp)

end Ensures

/-- A step that only reads keeps every invariant. -/
theorem Reads.ensures {a b : Rendering α} (h : Reads a b) : Ensures I a fun _ ↦ True := by
  intro s now hs
  obtain ⟨o, ha, -⟩ := h s now
  refine ha.weaken ?_
  rintro _ rfl x s' ho
  cases o with
  | error e => cases ho
  | ok y =>
    cases ho
    exact ⟨trivial, hs⟩

end Mailroom.Template.Rendering
