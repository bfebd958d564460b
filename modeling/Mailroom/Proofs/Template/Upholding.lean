import Mailroom.Proofs.Template.Counting
import Mailroom.Proofs.Template.Renderer

/-!
# What is upheld while a template is shown

A property of the counters may hang on what has been found on the way: a text is counted as taken
from another locale under the name of the locale that was asked for, and that name is a part of the
data. So the counters and the data are followed together. An operation upholds a property of the
counters if it keeps it, whether it fails or not, and if what it answers is as it should be; a step
of a rendering does so from every stage with an invariant, which holds behind it again. There is one
rule for each way in which operations, or steps, are put together.
-/

namespace Mailroom

open Journal (Leaves)

variable {α β γ ε ε' : Type} {J : Metrics → Prop} {P : α → Prop} {Q : β → Prop}

/-- A property of the counters that stays when a trouble is counted, as long as texts are asked for
under certain names only. -/
structure Metrics.Allows (names : String → Prop) (J : Metrics → Prop) : Prop where
  emptyValue : ∀ m : Metrics, ∀ helper ∈ notingHelpers, J m → J (m.emptyValue helper)
  fellBack : ∀ (m : Metrics) (requested : String) (origin : Locale), names requested → J m →
    J (m.fellBack requested origin.tag)
  textMissing : ∀ m : Metrics, J m → J m.textMissing

/-- Where texts may be asked for under any name, every trouble may be counted. -/
theorem Metrics.Allows.noted (hJ : Metrics.Allows (fun _ ↦ True) J) {m m' : Metrics}
    (h : m.Noted m') (hm : J m) : J m' := by
  induction h with
  | nothing => exact hm
  | emptyValue hhelper _ ih => exact hJ.emptyValue _ _ hhelper ih
  | fellBack requested origin _ ih => exact hJ.fellBack _ requested origin trivial ih
  | textMissing _ ih => exact hJ.textMissing _ ih

namespace Journal

/-- An operation keeps a property of the counters, and unless it fails, its answer has a property
too. -/
def Upholds (J : Metrics → Prop) (act : Attempt ε α) (P : α → Prop) : Prop :=
  ∀ m, J m → Leaves m act.run fun o m' ↦ J m' ∧ ∀ a, o = .ok a → P a

namespace Upholds

theorem ofExcept {o : Except ε α} (h : ∀ a, o = .ok a → P a) :
    Upholds J (ExceptT.mk (pure o)) P := fun _ hm ↦ .pure ⟨hm, h⟩

theorem pure {a : α} (h : P a) : Upholds J (pure a : Attempt ε α) P :=
  ofExcept fun _ heq ↦ Except.ok.inj heq ▸ h

theorem fail (e : ε) : Upholds J (throw e : Attempt ε α) P := ofExcept nofun

theorem bind {act : Attempt ε α} {f : α → Attempt ε β} (h : Upholds J act P)
    (hf : ∀ a, P a → Upholds J (f a) Q) : Upholds J (act >>= f) Q := fun m hm ↦
  (h m hm).bindExcept (fun a m' ha ↦ hf a (ha.2 a rfl) m' ha.1) fun _ _ he ↦ ⟨he.1, nofun⟩

/-- An operation that cannot fail, among operations that may. -/
theorem lift {act : Journaled α} (h : ∀ m, J m → Leaves m act fun a m' ↦ J m' ∧ P a) :
    Upholds J (liftM act : Attempt ε α) P := by
  intro m hm
  change Leaves m (act >>= fun a ↦ Pure.pure (Except.ok a)) _
  refine (h m hm).bind fun a m' ha ↦ .pure ⟨ha.1, ?_⟩
  rintro _ ⟨⟩
  exact ha.2

theorem log (e : Log.Event) : Upholds J (liftM (Journal.log e) : Attempt ε Unit) fun _ ↦ True :=
  lift fun _ hm ↦ Leaves.log.weaken fun _ _ heq ↦ ⟨heq ▸ hm, trivial⟩

theorem count {f : Metrics → Metrics} (h : ∀ m, J m → J (f m)) :
    Upholds J (liftM (Journal.count f) : Attempt ε Unit) fun _ ↦ True :=
  lift fun m hm ↦ Leaves.count.weaken fun _ _ heq ↦ ⟨heq ▸ h m hm, trivial⟩

/-- Failing for a reason of one's own. -/
theorem adapt {act : Attempt ε α} (g : ε → ε') (h : Upholds J act P) :
    Upholds J (ExceptT.adapt g act) P := by
  intro m hm j hj
  obtain ⟨hkept, hanswer⟩ := h m hm j hj
  refine ⟨hkept, fun a ha ↦ hanswer a ?_⟩
  change ((act.run.run j).1).mapError g = .ok a at ha
  cases ho : (act.run.run j).1 with
  | ok b =>
    rw [ho] at ha
    exact congrArg _ (Except.ok.inj ha)
  | error e =>
    rw [ho] at ha
    cases ha

theorem mapM {f : γ → Attempt ε β} (h : ∀ x, Upholds J (f x) fun _ ↦ True) (l : List γ) :
    Upholds J (l.mapM f) fun _ ↦ True := by
  induction l with
  | nil =>
    rw [List.mapM_nil]
    exact pure trivial
  | cons x l ih =>
    rw [List.mapM_cons]
    exact (h x).bind fun _ _ ↦ ih.bind fun _ _ ↦ pure trivial

/-- Where texts may be asked for under any name, an operation that counts nothing but troubles keeps
the property. -/
theorem ofNotes {act : Attempt ε α} (hJ : Metrics.Allows (fun _ ↦ True) J) (h : Notes act.run) :
    Upholds J act fun _ ↦ True := fun m hm ↦
  (h m).weaken fun _ _ hnoted ↦ ⟨hJ.noted hnoted hm, fun _ _ ↦ trivial⟩

end Upholds

end Journal

namespace Template.Rendering

variable {I : Stage → Prop}

/-- From a stage with the invariant a step keeps a property of the counters, and unless it fails, it
comes to an answer with a property and to a stage with the invariant. -/
def Upholds (J : Metrics → Prop) (I : Stage → Prop) (act : Rendering α) (P : α → Prop) : Prop :=
  ∀ s, I s → Journal.Upholds J (act s) fun x ↦ P x.1 ∧ I x.2

namespace Upholds

theorem pure {x : α} (h : P x) : Upholds J I (pure x) P := fun _ hs ↦ .pure ⟨h, hs⟩

theorem fail (fault : Fault) : Upholds J I (fail fault : Rendering α) P := fun _ _ ↦ .fail _

theorem get : Upholds J I get I := fun _ hs ↦ .pure ⟨hs, hs⟩

theorem set {s : Stage} (h : I s) : Upholds J I (set s) fun _ ↦ True := fun _ _ ↦
  .pure ⟨trivial, h⟩

theorem modify {f : Stage → Stage} (h : ∀ s, I s → I (f s)) :
    Upholds J I (modify f) fun _ ↦ True := fun s hs ↦ .pure ⟨trivial, h s hs⟩

theorem bind {act : Rendering α} {f : α → Rendering β} (h : Upholds J I act P)
    (hf : ∀ x, P x → Upholds J I (f x) Q) : Upholds J I (act >>= f) Q := fun s hs ↦
  (h s hs).bind fun x hx ↦ hf x.1 hx.1 x.2 hx.2

theorem ofExcept {o : Except Fault α} (h : ∀ x, o = .ok x → P x) :
    Upholds J I (ofExcept o) P := by
  cases o with
  | ok x => exact pure (h x rfl)
  | error fault => exact fail fault

theorem ofAttempt {act : Attempt Fault α} (h : Journal.Upholds J act P) :
    Upholds J I (ofAttempt act) P := fun _ hs ↦
  (h.adapt fun fault ↦ ({ fault } : RenderError)).bind fun _ hx ↦ .pure ⟨hx, hs⟩

/-- What is noted in a failure changes nothing for a step that does not fail. -/
theorem adapt {act : Rendering α} (note : RenderError → RenderError) (h : Upholds J I act P) :
    Upholds J I (fun s ↦ ExceptT.adapt note (act s)) P := fun s hs ↦ (h s hs).adapt note

theorem mapM {f : γ → Rendering β} {l : List γ} (h : ∀ x ∈ l, Upholds J I (f x) Q) :
    Upholds J I (l.mapM f) fun ys ↦ ∀ y ∈ ys, Q y := by
  induction l with
  | nil =>
    rw [List.mapM_nil]
    exact pure (List.forall_mem_nil _)
  | cons x l ih =>
    obtain ⟨hx, hl⟩ := List.forall_mem_cons.mp h
    rw [List.mapM_cons]
    exact hx.bind fun y hy ↦ (ih hl).bind fun ys hys ↦ pure (List.forall_mem_cons.mpr ⟨hy, hys⟩)

theorem mapIdxM {f : Nat → γ → Rendering β} {l : List γ}
    (h : ∀ i, ∀ x ∈ l, Upholds J I (f i x) fun _ ↦ True) :
    Upholds J I (l.mapIdxM f) fun _ ↦ True := by
  have key : ∀ acc : Array β, Upholds J I (List.mapIdxM.go f l acc) fun _ ↦ True := by
    induction l with
    | nil => exact fun acc ↦ pure trivial
    | cons x l ih =>
      exact fun acc ↦ (h _ x List.mem_cons_self).bind fun y _ ↦
        ih (fun i z hz ↦ h i z (List.mem_cons_of_mem _ hz)) (acc.push y)
  exact key #[]

end Upholds

end Template.Rendering

/-! ## Libraries and renderers -/

namespace Template

open Journal (Gives Upholds answerAt)

namespace Library

variable (files : Files.Tree) (key : String) (lib : Library)

theorem source_upholds : Upholds J (lib.source files key) fun _ ↦ True := by
  dsimp only [source]
  cases files.readText (lib.pathOf key) with
  | ok text => exact .pure trivial
  | error fault => exact (Upholds.log _).bind fun _ _ ↦ .fail _

theorem fetch_upholds (hcompiled : ∀ m n, J m → J (m.compiled n)) :
    Upholds J (lib.fetch files key) fun _ ↦ True := by
  refine Upholds.bind (P := fun _ ↦ True) (.ofExcept fun _ _ ↦ trivial) fun _ _ ↦ ?_
  cases lib.kept.lookup (keptName key) with
  | some t => exact .pure trivial
  | none =>
    refine (lib.source_upholds files key).bind fun text _ ↦ ?_
    cases compile none text with
    | error e => exact .fail _
    | ok t =>
      exact (Upholds.count fun m hm ↦ hcompiled m _ hm).bind fun _ _ ↦
        (Upholds.log _).bind fun _ _ ↦ .pure trivial

theorem readParts_upholds (dir : String) : Upholds J (readParts files dir) fun _ ↦ True := by
  unfold readParts
  cases files.isFolder dir with
  | false => exact (Upholds.log _).bind fun _ _ ↦ .pure trivial
  | true =>
    refine .mapM ?_ _
    rintro ⟨name, file⟩
    dsimp only
    cases files.readText (Files.join dir file) with
    | ok source => exact .pure trivial
    | error fault => exact .fail _

/-- Clearing keeps a property of the counters that does not hang on how many templates are kept. -/
theorem clear_upholds (hcleared : ∀ m : Metrics, J m → J m.cacheCleared) {m : Metrics}
    (hm : J m) : Leaves m (lib.clear files) fun _ m' ↦ J m' := by
  refine (readParts_upholds files lib.partsDir m hm).bind fun o m₁ ho ↦ ?_
  cases o with
  | error e => exact .pure ho.1
  | ok sources =>
    dsimp only
    rcases keepParts { lib with kept := [] } sources with ⟨lib', e | ⟨⟩⟩
    · exact .pure ho.1
    · refine Leaves.count.bind ?_
      rintro _ _ rfl
      refine Leaves.log.bind ?_
      rintro _ _ rfl
      exact .pure (hcleared _ ho.1)

end Library

namespace Renderer

variable {files : Files.Tree} {key locale : String} {payload : Json.Members} {r : Renderer}

/-- The data of a message is put together without anything being counted. -/
theorem context_leaves {m : Metrics} :
    Leaves m (r.context locale payload) fun context m' ↦
      m' = m ∧ ∃ now, context = answerAt now (r.context locale payload) := by
  have hnormalize : Leaves m (Payload.normalize payload) fun _ m' ↦ m' = m := by
    unfold Payload.normalize
    dsimp only
    split
    · split
      · exact Leaves.log.bind fun _ _ h ↦ .pure h
      · exact .pure rfl
    · exact .pure rfl
  have htexts : Leaves m (r.store.textsFor locale) fun _ m' ↦ m' = m := by
    unfold Locale.Store.textsFor
    split
    · exact .pure rfl
    · exact Leaves.log.bind fun _ _ h ↦ .pure h
  have hcounts : Leaves m (r.context locale payload) fun _ m' ↦ m' = m := by
    refine hnormalize.bind ?_
    rintro normalized _ rfl
    exact htexts.bind fun _ _ h ↦ .pure h
  exact fun j hj ↦ ⟨hcounts j hj, j.now, ((r.context_steady locale payload).gives j.now j rfl).1⟩

/-- Rendering a message keeps a property of the counters that is kept by the outcome, and upheld
while the template is shown. -/
theorem render_upholds (hcompiled : ∀ m n, J m → J (m.compiled n))
    (hsucceeded : ∀ m : Metrics, J m → J (m.renderSucceeded key))
    (hfailed : ∀ m : Metrics, J m → J (m.renderFailed key))
    (hpage : ∀ t library now, r.library.fetched files key = .ok (t, library) →
      Upholds J ({ r with library }.page t (answerAt now (r.context locale payload)))
        fun _ ↦ True) {m : Metrics} (hm : J m) :
    Leaves m (r.render files key locale payload) fun _ m' ↦ J m' := by
  have hattempt : Leaves m (r.attempt files key locale payload) fun _ m' ↦ J m' := by
    refine context_leaves.bind ?_
    rintro context m ⟨rfl, now, hcontext⟩
    rw [hcontext]
    have hfetched : Leaves m (r.library.fetch files key).run fun o m' ↦
        J m' ∧ o = r.library.fetched files key := by
      intro j hj
      have hgives : Gives j.now (r.library.fetch files key).run
          (· = r.library.fetched files key) := Library.fetch_gives
      exact ⟨(r.library.fetch_upholds files key hcompiled m hm j hj).1, (hgives j rfl).1⟩
    refine hfetched.bind ?_
    rintro _ m₁ ⟨hm₁, rfl⟩
    cases hfetched : r.library.fetched files key with
    | error e => exact .pure hm₁
    | ok found =>
      refine (hpage found.1 found.2 now hfetched m₁ hm₁).bind fun shown m₂ hshown ↦ ?_
      cases shown with
      | ok page => exact .pure hshown.1
      | error e =>
        refine Leaves.log.bind ?_
        rintro _ _ rfl
        exact .pure hshown.1
  refine hattempt.bind ?_
  rintro ⟨r', outcome⟩ m₁ hm₁
  cases outcome with
  | ok page =>
    refine Leaves.count.bind ?_
    rintro _ _ rfl
    exact .pure (hsucceeded _ hm₁)
  | error e =>
    refine Leaves.count.bind ?_
    rintro _ _ rfl
    exact .pure (hfailed _ hm₁)

end Renderer

end Template

end Mailroom
