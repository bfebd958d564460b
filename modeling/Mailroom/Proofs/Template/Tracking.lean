import Mailroom.Proofs.Journal
import Mailroom.Template.Render

/-!
# Renderings that track each other

Two steps of a rendering are compared by what becomes of every stage at every instant. A step that
only reads leaves the stage as it is; a step tracks another one if it comes out in the same way,
unless it stops with a failure of a kind that is left open. The kind of failure is a parameter: if
there is no such failure, a step that tracks another one has the same outcome.

Both relations are passed on from the parts of a step to the whole; there is one rule for each way
in which steps are put together.
-/

namespace Mailroom.Template.Rendering

open Journal (Gives Steady)

variable {α β : Type} {R : RenderError → Prop}

/-- What becomes of a step: a failure, or its answer with the stage behind it. -/
abbrev Outcome (α : Type) := Except RenderError (α × Stage)

/-- A step that is done goes over to the next one. -/
theorem gives_bind {now : Int} {a : Rendering α} {f : α → Rendering β} {s s' : Stage} {x : α}
    {P : Outcome β → Prop} (ha : Gives now (a.run s).run (· = .ok (x, s')))
    (hf : Gives now ((f x).run s').run P) : Gives now ((a >>= f).run s).run P := by
  refine .bindExcept ha ?_ nofun
  rintro _ ⟨⟩
  exact hf

/-- A step that fails is the last one. -/
theorem gives_bind_error {now : Int} {a : Rendering α} {f : α → Rendering β} {s : Stage}
    {e : RenderError} {P : Outcome β → Prop} (ha : Gives now (a.run s).run (· = .error e))
    (he : P (.error e)) : Gives now ((a >>= f).run s).run P := by
  refine .bindExcept ha nofun ?_
  rintro _ ⟨⟩
  exact he

/-- An outcome that is `o`, or a failure of the kind that is left open. -/
def Within (R : RenderError → Prop) (o o' : Outcome α) : Prop :=
  o' = o ∨ ∃ e, o' = .error e ∧ R e

/-- Both steps have the same outcome, and they leave the stage as it is. -/
def Reads (a b : Rendering α) : Prop :=
  ∀ s now, ∃ o : Except RenderError α,
    Gives now (a.run s).run (· = o.map (·, s)) ∧ Gives now (b.run s).run (· = o.map (·, s))

/-- The second step has one outcome, and the first step has it too or fails in a way that is left
open. -/
def Tracks (R : RenderError → Prop) (a b : Rendering α) : Prop :=
  ∀ s now, ∃ o : Outcome α, Gives now (a.run s).run (Within R o) ∧ Gives now (b.run s).run (· = o)

/-! ## Steps that only read -/

namespace Reads

theorem pure (x : α) : Reads (pure x) (pure x) := fun _ _ ↦ ⟨.ok x, .pure rfl, .pure rfl⟩

theorem fail (fault : Fault) : Reads (fail fault : Rendering α) (fail fault) :=
  fun _ _ ↦ ⟨.error { fault }, .pure rfl, .pure rfl⟩

theorem get : Reads get get := fun s _ ↦ ⟨.ok s, .pure rfl, .pure rfl⟩

theorem bind {a b : Rendering α} {f g : α → Rendering β} (h : Reads a b)
    (hf : ∀ x, Reads (f x) (g x)) : Reads (a >>= f) (b >>= g) := by
  intro s now
  obtain ⟨o, ha, hb⟩ := h s now
  cases o with
  | error e => exact ⟨.error e, gives_bind_error ha rfl, gives_bind_error hb rfl⟩
  | ok x =>
    obtain ⟨o', ha', hb'⟩ := hf x s now
    exact ⟨o', gives_bind ha ha', gives_bind hb hb'⟩

theorem ofExcept (o : Except Fault α) : Reads (ofExcept o) (ofExcept o) := by
  cases o with
  | ok x => exact pure x
  | error fault => exact fail fault

/-- An operation that depends on the clock alone reads the stage no more than it changes it. -/
theorem ofAttempt {act : Attempt Fault α} (h : Steady act.run) :
    Reads (ofAttempt act) (ofAttempt act) := by
  intro s now
  obtain ⟨o, ho⟩ := h now
  let failed (fault : Fault) : RenderError := { fault }
  have hadapt : Gives now (ExceptT.adapt failed act).run (· = o.mapError failed) :=
    ho.adapt fun _ h ↦ congrArg _ h
  have hlift : Gives now ((Rendering.ofAttempt act).run s).run
      (· = (o.mapError failed).map (·, s)) := by
    refine hadapt.bindExcept ?_ ?_
    · intro x hx
      rw [← hx]
      exact .pure rfl
    · intro e he
      rw [← he]
      rfl
  exact ⟨_, hlift, hlift⟩

theorem mapM {γ : Type} {f g : γ → Rendering β} {l : List γ} (h : ∀ x ∈ l, Reads (f x) (g x)) :
    Reads (l.mapM f) (l.mapM g) := by
  induction l with
  | nil =>
    rw [List.mapM_nil, List.mapM_nil]
    exact pure []
  | cons x l ih =>
    rw [List.mapM_cons, List.mapM_cons]
    exact (h x (by simp)).bind fun y ↦
      (ih fun z hz ↦ h z (by simp [hz])).bind fun ys ↦ pure (y :: ys)

theorem tracks {a b : Rendering α} (h : Reads a b) : Tracks R a b := by
  intro s now
  obtain ⟨o, ha, hb⟩ := h s now
  exact ⟨_, ha.weaken fun _ h ↦ .inl h, hb⟩

end Reads

/-! ## Steps that change the stage -/

namespace Tracks

theorem pure (x : α) : Tracks R (pure x) (pure x) := (Reads.pure x).tracks

theorem fail (fault : Fault) : Tracks R (fail fault : Rendering α) (fail fault) :=
  (Reads.fail fault).tracks

theorem get : Tracks R get get := Reads.get.tracks

theorem set (s : Stage) : Tracks R (set s) (set s) :=
  fun _ _ ↦ ⟨.ok ((), s), .pure (.inl rfl), .pure rfl⟩

theorem modify (f : Stage → Stage) : Tracks R (modify f) (modify f) :=
  fun s _ ↦ ⟨.ok ((), f s), .pure (.inl rfl), .pure rfl⟩

theorem bind {a b : Rendering α} {f g : α → Rendering β} (h : Tracks R a b)
    (hf : ∀ x, Tracks R (f x) (g x)) : Tracks R (a >>= f) (b >>= g) := by
  intro s now
  obtain ⟨o, ha, hb⟩ := h s now
  cases o with
  | error e =>
    refine ⟨.error e, .bindExcept ha ?_ ?_, gives_bind_error hb rfl⟩
    · rintro _ (h | ⟨_, h, -⟩) <;> cases h
    · rintro _ (⟨⟨⟩⟩ | ⟨_, ⟨⟩, h⟩)
      · exact .inl rfl
      · exact .inr ⟨_, rfl, h⟩
  | ok x =>
    obtain ⟨o', ha', hb'⟩ := hf x.1 x.2 now
    refine ⟨o', .bindExcept ha ?_ ?_, gives_bind hb hb'⟩
    · rintro _ (⟨⟨⟩⟩ | ⟨_, h, -⟩)
      · exact ha'
      · cases h
    · rintro _ (h | ⟨_, ⟨⟩, h⟩)
      · cases h
      · exact .inr ⟨_, rfl, h⟩

/-- A step that is tracked has one outcome, so it tracks itself. -/
theorem right {a b : Rendering α} (h : Tracks R a b) : Tracks R b b := by
  intro s now
  obtain ⟨o, -, hb⟩ := h s now
  exact ⟨o, hb.weaken fun _ h ↦ .inl h, hb⟩

/-- Looking at what will be read, and failing in a way that is left open, before it is read. -/
theorem guarded {a b : Rendering α} {barred : α → Bool} {fault : α → Fault} {f g : α → Rendering β}
    (h : Reads a b) (hR : ∀ x, barred x = true → R { fault := fault x })
    (hf : ∀ x, barred x = false → Tracks R (f x) (g x)) (hg : ∀ x, Tracks R (g x) (g x)) :
    Tracks R (do (do let x ← a; if barred x then Rendering.fail (fault x)); a >>= f) (b >>= g) := by
  intro s now
  obtain ⟨o, ha, hb⟩ := h s now
  cases o with
  | error e =>
    exact ⟨.error e, gives_bind_error (gives_bind_error (P := (· = .error e)) ha rfl) (.inl rfl),
      gives_bind_error hb rfl⟩
  | ok x =>
    cases hx : barred x with
    | true =>
      obtain ⟨o', -, hb'⟩ := hg x s now
      refine ⟨o', gives_bind_error (gives_bind ha ?_) (.inr ⟨_, rfl, hR x hx⟩), gives_bind hb hb'⟩
      rw [if_pos hx]
      exact .pure rfl
    | false =>
      obtain ⟨o', ha', hb'⟩ := hf x hx s now
      refine ⟨o', gives_bind (x := ()) (gives_bind ha ?_) (gives_bind ha ha'), gives_bind hb hb'⟩
      rw [hx]
      exact .pure rfl

/-- What is noted in a failure does not hide its kind. -/
theorem adapt {note : RenderError → RenderError} (hR : ∀ e, R e → R (note e)) {a b : Rendering α}
    (h : Tracks R a b) :
    Tracks R (fun s ↦ ExceptT.adapt note (a s)) (fun s ↦ ExceptT.adapt note (b s)) := by
  intro s now
  obtain ⟨o, ha, hb⟩ := h s now
  refine ⟨o.mapError note, ha.adapt ?_, hb.adapt fun _ h ↦ congrArg _ h⟩
  rintro _ (rfl | ⟨e, rfl, he⟩)
  · exact .inl rfl
  · exact .inr ⟨note e, rfl, hR e he⟩

theorem mapM {γ : Type} {f g : γ → Rendering β} {l : List γ} (h : ∀ x ∈ l, Tracks R (f x) (g x)) :
    Tracks R (l.mapM f) (l.mapM g) := by
  induction l with
  | nil =>
    rw [List.mapM_nil, List.mapM_nil]
    exact pure []
  | cons x l ih =>
    rw [List.mapM_cons, List.mapM_cons]
    exact (h x (by simp)).bind fun y ↦
      (ih fun z hz ↦ h z (by simp [hz])).bind fun ys ↦ pure (y :: ys)

theorem mapIdxM {γ : Type} {f g : Nat → γ → Rendering β} (h : ∀ i x, Tracks R (f i x) (g i x))
    (l : List γ) : Tracks R (l.mapIdxM f) (l.mapIdxM g) := by
  have key : ∀ acc : Array β, Tracks R (List.mapIdxM.go f l acc) (List.mapIdxM.go g l acc) := by
    induction l with
    | nil => exact fun acc ↦ pure acc.toList
    | cons x l ih => exact fun acc ↦ (h _ x).bind fun y ↦ ih (acc.push y)
  exact key #[]

end Tracks

end Mailroom.Template.Rendering
