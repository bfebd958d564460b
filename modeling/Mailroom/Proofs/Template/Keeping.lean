import Mailroom.Proofs.Template.Ensuring
import Mailroom.Proofs.Template.Inclusion
import Mathlib.Data.List.Forall2

/-!
# What an element leaves as it is

Blocks open scopes and parts begin with blanks of their own, but none of this outlasts the element
that brings it about. So an element is shown in the scopes and behind the blanks that its body began
with, whatever the elements in front of it are (`Repertoire.showBody_keeps`). What has been defined
on the way does outlast the element, so it stays as it is only where there are no decorators
(`Repertoire.showBody_keeps_defined`). Both are about families of invariants, as the invariant of a
block is another one than that of its body; an element keeps what its bodies keep.
-/

namespace Mailroom.Template

open Journal (Gives)
open Rendering (Ensures Reads ofExcept ofAttempt gives_bind)

/-- A stage with some scopes and some blanks in front of every line, on which values are escaped. -/
structure Stage.At (scopes : List Scope) (indent : Option String) (s : Stage) : Prop where
  scopes_eq : s.scopes = scopes
  indent_eq : s.indent = indent
  escapes : s.plain = false

namespace Rendering

variable {α β γ ι : Type} {F : ι → Stage → Prop}

/-- Unless it fails, a step keeps every invariant of a family. -/
def Keeps (F : ι → Stage → Prop) (act : Rendering α) : Prop := ∀ i, Ensures (F i) act fun _ ↦ True

namespace Keeps

theorem pure (x : α) : Keeps F (pure x) := fun _ ↦ .pure trivial

theorem fail (fault : Fault) : Keeps F (fail fault : Rendering α) := fun _ ↦ .fail fault

theorem ofReads {a b : Rendering α} (h : Reads a b) : Keeps F a := fun _ ↦ h.ensures

theorem bind {act : Rendering α} {f : α → Rendering β} (h : Keeps F act)
    (hf : ∀ x, Keeps F (f x)) : Keeps F (act >>= f) := fun i ↦ (h i).bind fun x _ ↦ hf x i

theorem adapt {act : Rendering α} (note : RenderError → RenderError) (h : Keeps F act) :
    Keeps F fun s ↦ ExceptT.adapt note (act s) := fun i ↦ (h i).adapt note

theorem modify {f : Stage → Stage} (h : ∀ i s, F i s → F i (f s)) : Keeps F (modify f) :=
  fun i ↦ .modify (h i)

end Keeps

/-! ## At an instant -/

/-- At an instant, from stages with an invariant, a step fails, or it comes to an answer with a
property and to a stage with the invariant. -/
def Yields (now : Int) (I : Stage → Prop) (act : Rendering α) (P : α → Prop) : Prop :=
  ∀ s, I s → Gives now (act.run s).run fun o ↦ ∀ x s', o = .ok (x, s') → P x ∧ I s'

variable {now : Int} {I : Stage → Prop} {P : α → Prop} {Q : β → Prop}

theorem Ensures.yields {act : Rendering α} (h : Ensures I act P) (now : Int) :
    Yields now I act P := fun s hs ↦ h s now hs

namespace Yields

theorem pure {x : α} (h : P x) : Yields now I (pure x) P := (Ensures.pure h).yields now

theorem fail (fault : Fault) : Yields now I (fail fault : Rendering α) P :=
  (Ensures.fail fault).yields now

theorem bind {act : Rendering α} {f : α → Rendering β} (h : Yields now I act P)
    (hf : ∀ x, P x → Yields now I (f x) Q) : Yields now I (act >>= f) Q := by
  intro s hs
  refine (h s hs).bindExcept ?_ ?_
  · intro x hx
    obtain ⟨hP, hI⟩ := hx x.1 x.2 rfl
    exact hf x.1 hP x.2 hI
  · rintro e - _ _ ⟨⟩

theorem weaken {P' : α → Prop} {act : Rendering α} (h : Yields now I act P)
    (hP : ∀ x, P x → P' x) : Yields now I act P' := by
  intro s hs
  refine (h s hs).weaken ?_
  intro o ho x s' hx
  obtain ⟨hanswer, hstage⟩ := ho x s' hx
  exact ⟨hP x hanswer, hstage⟩

theorem adapt {act : Rendering α} (note : RenderError → RenderError) (h : Yields now I act P) :
    Yields now I (fun s ↦ ExceptT.adapt note (act s)) P := by
  intro s hs
  refine (h s hs).adapt ?_
  rintro (e | ⟨x, s'⟩) ho _ _ ⟨⟩
  exact ho x s' rfl

/-- Steps one after the other, with something known of each of them. -/
theorem mapM {R : γ → β → Prop} {f : γ → Rendering β} {l : List γ}
    (h : ∀ x ∈ l, Yields now I (f x) (R x)) : Yields now I (l.mapM f) (List.Forall₂ R l) := by
  induction l with
  | nil =>
    rw [List.mapM_nil]
    exact pure .nil
  | cons x l ih =>
    obtain ⟨hx, hl⟩ := List.forall_mem_cons.mp h
    rw [List.mapM_cons]
    exact hx.bind fun y hy ↦ (ih hl).bind fun ys hys ↦ pure (.cons hy hys)

/-- An answer has every property that a step yields. -/
theorem all {act : Rendering α} (h : Yields now I act fun _ ↦ True) :
    Yields now I act fun x ↦ ∀ P : α → Prop, Yields now I act P → P x := by
  intro s hs j hj
  obtain ⟨hanswer, hnow⟩ := h s hs j hj
  refine ⟨fun x s' ho ↦ ⟨fun P hP ↦ ?_, (hanswer x s' ho).2⟩, hnow⟩
  exact ((hP s hs j hj).1 x s' ho).1

end Yields

end Rendering

open Rendering (Keeps Yields)

variable {ι : Type} {F : ι → Stage → Prop}

/-! ## Scopes -/

/-- Invariants under which values are escaped. A scope may be opened under each of them, and when it
is closed the invariant holds again. -/
structure Nests (F : ι → Stage → Prop) : Prop where
  escapes : ∀ i s, F i s → s.plain = false
  opens : ∀ i s, F i s → ∀ scope : Scope, ∃ j, F j { s with scopes := scope :: s.scopes } ∧
    ∀ s', F j s' → F i { s' with scopes := s.scopes }

/-- A scope is open only for what is done in it. -/
theorem inScope_keeps (hF : Nests F) {act : Rendering String} (h : Keeps F act) (scope : Scope) :
    Keeps F (inScope scope act) := by
  intro i s now hs
  obtain ⟨j, hinner, hback⟩ := hF.opens i s hs scope
  refine gives_bind (.pure rfl) (gives_bind (.pure rfl) ?_)
  refine (h j _ now hinner).bindExcept ?_ ?_
  · rintro ⟨text, s'⟩ hstep
    obtain ⟨-, hs'⟩ := hstep text s' rfl
    refine .pure ?_
    rintro _ _ ⟨⟩
    exact ⟨trivial, hback s' hs'⟩
  · rintro e - _ _ ⟨⟩

/-- A value that is shown as it is, and after which values are escaped again. -/
theorem plainly_keeps (hF : Nests F) {act : Rendering String} (h : Reads act act) :
    Keeps F (do
      modify fun s ↦ { s with plain := true }
      let text ← act
      modify fun s ↦ { s with plain := false }
      return text) := by
  intro i s now hs
  obtain ⟨o, ho, -⟩ := h { s with plain := true } now
  have hback : ({ s with plain := false } : Stage) = s := by rw [← hF.escapes i s hs]
  refine gives_bind (.pure rfl) (ho.bindExcept ?_ ?_)
  · rintro ⟨text, s'⟩ hstep
    cases o with
    | error e => cases hstep
    | ok x =>
      cases hstep
      refine .pure ?_
      rintro _ _ ⟨⟩
      exact ⟨trivial, hback.symm ▸ hs⟩
  · rintro e - _ _ ⟨⟩

/-! ## Blocks -/

section

variable {sub : Show} {body otherwise : Option Body}

theorem Show.optional_keeps (h : ∀ b, body = some b → Keeps F (sub none b)) :
    Keeps F (sub.optional body) := by
  cases body with
  | none => exact .pure _
  | some body => exact h body rfl

theorem eachItem_keeps (hF : Nests F) (line : Line Json) (place : Option (List String))
    {body : Body} (hbody : Keeps F (sub none body)) (counter : String)
    (items : List (String × Json × Json)) :
    Keeps F (eachItem sub line place body counter items) := fun i ↦
  (Ensures.mapIdxM (fun _ _ ↦ inScope_keeps hF hbody _ i) items).bind fun _ _ ↦ .pure trivial

theorem showEach_keeps (hF : Nests F) (line : Line Json) (c : Call) {body : Body}
    (hbody : Keeps F (sub none body))
    (hotherwise : ∀ b, otherwise = some b → Keeps F (sub none b)) :
    Keeps F (showEach sub line c body otherwise) := by
  refine .bind (.ofReads (.ofExcept _)) fun found ↦ ?_
  dsimp only
  split
  · exact Show.optional_keeps hotherwise
  · exact Show.optional_keeps hotherwise
  · exact eachItem_keeps hF line _ hbody _ _
  · exact eachItem_keeps hF line _ hbody _ _
  · exact Show.optional_keeps hotherwise

theorem showInside_keeps (hF : Nests F) (line : Line Json) (c : Call) {body : Body}
    (hbody : Keeps F (sub none body))
    (hotherwise : ∀ b, otherwise = some b → Keeps F (sub none b)) :
    Keeps F (showInside sub line c body otherwise) := by
  refine .bind (.ofReads (.ofExcept _)) fun found ↦ ?_
  dsimp only
  split
  · exact inScope_keeps hF hbody _
  · exact Show.optional_keeps hotherwise

namespace Repertoire

variable (r : Repertoire)

/-- A tag that calls a helper keeps what the bodies of its block keep. -/
theorem showCall_keeps (hF : Nests F) (line : Line Json)
    (hbody : ∀ b, body = some b → Keeps F (sub none b))
    (hotherwise : ∀ b, otherwise = some b → Keeps F (sub none b)) :
    Keeps F (r.showCall sub line body otherwise) := by
  refine .bind (.ofReads (r.call_reads r.templates line)) fun c ↦ ?_
  split
  · exact .fail _
  · rename_i helper hh
    refine .bind (.ofReads (r.setting_reads r.templates)) fun s ↦ ?_
    split
    · exact .bind (.ofReads (.ofAttempt (helper?_steady hh s c))) fun v ↦
        .ofReads (writeValue_reads v)
    · exact .pure _
    · split
      · exact hbody _ rfl
      · exact Show.optional_keeps hotherwise
    · refine .bind (.ofReads (.ofExcept _)) fun b ↦ ?_
      split
      · exact hbody _ rfl
      · exact Show.optional_keeps hotherwise
    · exact showEach_keeps hF line c (hbody _ rfl) hotherwise
    · exact showInside_keeps hF line c (hbody _ rfl) hotherwise
    · exact hbody _ rfl
    · exact .bind (.ofReads (Helper.bodiless_reads _ s c)) fun _ ↦ .pure _

/-- A tag without a body of its own only reads. -/
theorem showValue_reads (sub : Show) (line : Line Json) :
    Reads (r.showValue sub line) (r.showValue sub line) := by
  have hcall : Reads (r.showCall sub line none none) (r.showCall sub line none none) := by
    refine (r.call_reads r.templates line).bind fun c ↦ ?_
    split
    · exact .fail _
    · rename_i helper hh
      refine (r.setting_reads r.templates).bind fun s ↦ ?_
      cases helper with
      | value f =>
        exact (Reads.ofAttempt (helper?_steady hh s c)).bind fun v ↦ writeValue_reads v
      | equality test => exact .pure _
      | _ => exact (Helper.bodiless_reads _ s c).bind fun _ ↦ .pure _
  unfold showValue
  split
  · refine (r.calleeName_reads r.templates _).bind fun name ↦ ?_
    split
    · exact hcall
    · refine (r.evaluate_reads r.templates _).bind fun found ↦ ?_
      split
      · exact .pure _
      · exact writeValue_reads _
  · exact hcall

/-! ## Parts -/

theorem definePart_keeps (hF : ∀ i s defined, F i s → F i { s with defined }) (c : Call)
    (body : Option Body) : Keeps F (definePart c body) := by
  refine .bind (.ofReads (.ofExcept _)) fun found ↦ ?_
  split
  · cases body with
    | none => exact .fail _
    | some body => exact .modify fun i s hs ↦ hF i s _ hs
  · exact .fail _

theorem decorate_keeps (hF : ∀ i s defined, F i s → F i { s with defined }) (line : Line Json)
    (body : Option Body) : Keeps F (r.decorate line body) := by
  rw [decorate_eq]
  refine .bind (.ofReads (r.call_reads r.templates line)) fun c ↦ ?_
  split
  · exact .bind (.fail _) fun _ : PUnit ↦ definePart_keeps hF c body
  · exact definePart_keeps hF c body

theorem decorateAll_keeps (hF : ∀ i s defined, F i s → F i { s with defined }) (body : Body) :
    Keeps F (r.decorateAll body) := by
  induction body using Repertoire.decorateAll.induct with
  | case1 =>
    rw [decorateAll]
    exact .pure _
  | case2 position line inner rest ih =>
    rw [decorateAll]
    exact .bind ((r.decorate_keeps hF line inner).adapt (RenderError.locate position)) fun _ ↦ ih
  | case3 head rest hne ih =>
    rw [decorateAll]
    · exact ih
    · exact hne

end Repertoire

end

/-- The scopes and the blanks around an element. -/
def Stage.Around (i : List Scope × Option String) (s : Stage) : Prop := s.At i.1 i.2

theorem nests_around : Nests Stage.Around where
  escapes _ _ h := h.escapes
  opens i s h scope := ⟨(scope :: s.scopes, i.2), ⟨rfl, h.indent_eq, h.escapes⟩,
    fun _ h' ↦ ⟨h.scopes_eq, h'.indent_eq, h'.escapes⟩⟩

section

variable {sub : Show} (hsub : ∀ name body, Keeps Stage.Around (sub name body))

include hsub

namespace Repertoire

variable (r : Repertoire)

/-- The stage of a part is gone when the part has been shown. -/
theorem showIn_keeps {J : Stage → Prop} {stage : Stage} (hstage : J stage)
    (hplain : stage.plain = false) (blanks : Option String) (body : Option Body) (c : Call)
    (part : Option Compiled) : Ensures J (r.showIn sub blanks body c stage part) fun _ ↦ True := by
  cases part with
  | none => exact .fail _
  | some part =>
    refine (Reads.ofExcept _).ensures.bind fun scopes _ s now hs ↦ ?_
    have hinner : Stage.Around (scopes, blanks) { stage with
        scopes
        indent := blanks
        depth := if c.name = givenBody then stage.depth + 1 else stage.depth - 1
        given := body.toList ++ stage.given } := ⟨rfl, rfl, hplain⟩
    refine gives_bind (.pure rfl) ?_
    refine (hsub part.name part.body _ _ now hinner).bindExcept ?_ ?_
    · rintro ⟨text, s'⟩ -
      refine .pure ?_
      rintro _ _ ⟨⟩
      exact ⟨trivial, hstage⟩
    · rintro e - _ _ ⟨⟩

theorem putIn_keeps (hF : Nests F) {body : Option Body}
    (hbody : Keeps F (r.decorateAll (body.getD []))) (indent : Option String) (c : Call) :
    Keeps F (r.putIn sub indent body c) := by
  refine .bind hbody fun _ i ↦ Ensures.get.bind fun stage hstage ↦ ?_
  have hshow := r.showIn_keeps hsub hstage (hF.escapes i stage hstage) indent body c
    (r.part? stage c.name body)
  dsimp only
  split
  · exact (Ensures.fail (P := fun _ ↦ True) _).bind fun _ _ ↦ hshow
  · exact hshow

/-! ## Elements -/

/-- The bodies that are shown by an element, and its decorators, keep every invariant of a
family. -/
def Within (r : Repertoire) (sub : Show) (F : ι → Stage → Prop) : Element → Prop
  | .block _ body otherwise =>
    Keeps F (sub none body) ∧ ∀ b, otherwise = some b → Keeps F (sub none b)
  | .decorator line body => Keeps F (r.decorate line body)
  | .part _ _ body => Keeps F (r.decorateAll (body.getD []))
  | _ => True

theorem showElement_keeps (hF : Nests F) {e : Element} (h : r.Within sub F e) :
    Keeps F (r.showElement sub e) := by
  cases e with
  | text text => exact .ofReads (write_reads text)
  | value line escaped =>
    cases escaped with
    | true => exact .ofReads (r.showValue_reads sub line)
    | false => exact plainly_keeps hF (r.showValue_reads sub line)
  | block line body otherwise =>
    refine r.showCall_keeps hF line ?_ h.2
    rintro _ ⟨⟩
    exact h.1
  | decorator line body => exact .bind h fun _ ↦ .pure _
  | part line indent body =>
    exact .bind (.ofReads (r.call_reads r.templates line)) fun c ↦
      r.putIn_keeps hsub hF h indent c
  | comment => exact .pure _

theorem within_around (e : Element) : r.Within sub Stage.Around e := by
  have hdefined i s defined (hs : Stage.Around i s) : Stage.Around i { s with defined } :=
    ⟨hs.scopes_eq, hs.indent_eq, hs.escapes⟩
  cases e with
  | block line body otherwise => exact ⟨hsub none body, fun b _ ↦ hsub none b⟩
  | decorator line body => exact r.decorate_keeps hdefined line body
  | part line indent body => exact r.decorateAll_keeps hdefined _
  | _ => trivial

end Repertoire

end

/-! ## Bodies -/

namespace Repertoire

variable (r : Repertoire)

/-- A body keeps what its elements keep. -/
theorem showBody_keeps_of {n : Nat} {body : Body}
    (hF : ∀ i s current, F i s → F i { s with current })
    (h : ∀ e ∈ body, Keeps F (r.showElement (r.showBody n) e.2)) (name : Option String) :
    Keeps F (r.showBody (n + 1) name body) := by
  refine .bind (.modify fun i s hs ↦ hF i s name hs) fun _ i ↦ ?_
  have helement (e : Option Position × Element) (he : e ∈ body) :=
    ((h e he i).adapt (RenderError.locate e.1)).adapt (RenderError.inTemplate name)
  exact (Ensures.mapM helement).bind fun _ _ ↦ .pure trivial

theorem showBody_keeps (n : Nat) (name : Option String) (body : Body) :
    Keeps Stage.Around (r.showBody n name body) := by
  induction n generalizing name body with
  | zero => exact .fail _
  | succ n ih =>
    refine r.showBody_keeps_of (fun i s _ hs ↦ ⟨hs.scopes_eq, hs.indent_eq, hs.escapes⟩) ?_ name
    exact fun e _ ↦ r.showElement_keeps ih nests_around (r.within_around ih e.2)

/-- A body is shown as the texts of its elements. Whatever an element yields from the stages with an
invariant that all of them keep, its text is. -/
theorem showBody_yields_texts {I : Stage → Prop} {n : Nat} {body : Body}
    (hI : ∀ s current, I s → I { s with current })
    (h : ∀ e ∈ body, Ensures I (r.showElement (r.showBody n) e.2) fun _ ↦ True)
    (name : Option String) (now : Int) :
    Yields now I (r.showBody (n + 1) name body) fun page ↦ ∃ texts, page = String.join texts ∧
      List.Forall₂ (fun e text ↦ ∀ P : String → Prop,
        Yields now I (r.showElement (r.showBody n) e.2) P → P text) body texts := by
  have helement (e : Option Position × Element) (he : e ∈ body) :=
    (((h e he).yields now).all.adapt (RenderError.locate e.1)).adapt (RenderError.inTemplate name)
  refine ((Ensures.modify fun s hs ↦ hI s name hs).yields now).bind fun _ _ ↦ ?_
  exact (Yields.mapM helement).bind fun texts htexts ↦ .pure ⟨texts, rfl, htexts⟩

/-- What is yielded where nothing is open is a property of every page. -/
theorem render_yields {I : Stage → Prop} {t : Compiled} {now : Int} {P : String → Prop}
    (hI : I {}) (h : Yields now I (r.showBody nestingLimit t.name t.body) P) :
    Gives now (r.render t).run fun o ↦ ∀ page, o = .ok page → P page := by
  refine Gives.bindExcept (h {} hI) ?_ ?_
  · rintro ⟨text, s⟩ htext
    refine .pure ?_
    rintro _ ⟨⟩
    exact (htext text s rfl).1
  · rintro e - _ ⟨⟩

end Repertoire

/-! ## Without decorators -/

mutual

/-- Whether an element has no decorators in it. What a part has in it does not count. -/
def Element.definesNone : Element → Bool
  | .block _ body otherwise => Body.definesNone body && Body.otherwiseDefinesNone otherwise
  | .decorator _ _ => false
  | .part _ _ body => body.isNone
  | _ => true

/-- Whether a body has no decorators in it. -/
def Body.definesNone : List (Option Position × Element) → Bool
  | [] => true
  | (_, e) :: rest => e.definesNone && Body.definesNone rest

/-- Whether a body that may be missing has no decorators in it. -/
def Body.otherwiseDefinesNone : Option (List (Option Position × Element)) → Bool
  | some body => Body.definesNone body
  | none => true

end

theorem Body.definesNone_iff {body : Body} :
    Body.definesNone body = true ↔ ∀ e ∈ body, e.2.definesNone = true := by
  induction body with
  | nil => simp [definesNone]
  | cons e rest ih => rw [definesNone, Bool.and_eq_true, ih, List.forall_mem_cons]

/-- The scopes and the blanks around an element, and what has been defined in front of it. -/
def Stage.Amid (i : (List Scope × Option String) × List (String × Body)) (s : Stage) : Prop :=
  s.Around i.1 ∧ s.defined = i.2

/-- It makes no difference which template was begun last. -/
theorem Stage.Amid.begin {i : (List Scope × Option String) × List (String × Body)} {s : Stage}
    (h : s.Amid i) (current : Option String) : Stage.Amid i { s with current } :=
  ⟨⟨h.1.scopes_eq, h.1.indent_eq, h.1.escapes⟩, h.2⟩

theorem nests_amid : Nests Stage.Amid where
  escapes _ _ h := h.1.escapes
  opens i s h scope := by
    obtain ⟨j, hj, hback⟩ := nests_around.opens i.1 s h.1 scope
    exact ⟨(j, i.2), ⟨hj, h.2⟩, fun s' h' ↦ ⟨hback s' h'.1, h'.2⟩⟩

namespace Repertoire

variable (r : Repertoire)

theorem within_amid {sub : Show} {e : Element} (he : e.definesNone = true)
    (hsub : ∀ body, Body.definesNone body = true → Keeps Stage.Amid (sub none body)) :
    r.Within sub Stage.Amid e := by
  cases e with
  | block line body otherwise =>
    rw [Element.definesNone, Bool.and_eq_true] at he
    refine ⟨hsub body he.1, ?_⟩
    rintro b rfl
    exact hsub b he.2
  | decorator line body => cases he
  | part line indent body =>
    cases body with
    | none => exact .pure _
    | some body => cases he
  | _ => trivial

/-- Without decorators, what has been defined stays as it is. -/
theorem showBody_keeps_defined (n : Nat) (name : Option String) {body : Body}
    (h : Body.definesNone body = true) : Keeps Stage.Amid (r.showBody n name body) := by
  induction n generalizing name body with
  | zero => exact .fail _
  | succ n ih =>
    refine r.showBody_keeps_of (fun i s current hs ↦ hs.begin current) (fun e he ↦ ?_) name
    have hnone := Body.definesNone_iff.mp h e he
    exact r.showElement_keeps (r.showBody_keeps n) nests_amid
      (r.within_amid hnone fun body hbody ↦ ih none hbody)

end Repertoire

end Mailroom.Template
