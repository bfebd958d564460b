import Mailroom.Proofs.Template.Helper
import Mailroom.Proofs.Template.Tracking

/-!
# What a rendering puts in

A rendering takes templates from its repertoire at one place only: where a tag puts in a part. So
two repertoires that differ in some names alone show the same, as long as no tag asks for one of
these names. A guarded rendering looks at the name in a tag before the part is put in, and stops if
the name is barred; whatever it comes to otherwise, the plain rendering comes to it as well, with
every repertoire that has the same templates under the other names.
-/

namespace Mailroom.Template

open Journal (Gives Steady answerAt)
open Rendering (Reads Tracks fail ofExcept ofAttempt)

/-! ## Guarded renderings -/

/-- Stop at a tag that puts in a part of a barred name. -/
def Repertoire.guard (r : Repertoire) (barred : String → Bool) : Element → Rendering Unit
  | .part line _ _ => do
    let c ← r.call line
    if barred c.name then fail (.partNotFound c.name)
  | _ => pure ()

/-- Show a body, and stop at the first tag that puts in a part of a barred name. -/
def Repertoire.showGuarded (r : Repertoire) (barred : String → Bool) : Nat → Show
  | 0, _, _ => fail .nestedTooDeep
  | n + 1, name, body => do
    modify fun s ↦ { s with current := name }
    let texts ← body.mapM fun (position, e) ↦
      Rendering.within name (Rendering.located position do
        r.guard barred e
        r.showElement (r.showGuarded barred n) e)
    return String.join texts

/-- Show a template, and stop at the first tag that puts in a part of a barred name. -/
def Repertoire.renderGuarded (r : Repertoire) (barred : String → Bool) (t : Compiled) :
    Attempt RenderError String := do
  let (text, _) ← (r.showGuarded barred nestingLimit t.name t.body).run {}
  return text

/-- The name of a part that has not been found. -/
def Fault.lacking : Fault → Option String
  | .partNotFound name => some name
  | _ => none

/-- A failure at a tag that puts in a part of a barred name. -/
def Stopped (barred : String → Bool) (e : RenderError) : Prop :=
  ∃ name, e.fault = .partNotFound name ∧ barred name = true

theorem stopped_iff {barred : String → Bool} {e : RenderError} :
    Stopped barred e ↔ e.fault.lacking.any barred = true := by
  cases h : e.fault with
  | partNotFound name => simp [Stopped, Fault.lacking, h]
  | _ => simp [Stopped, Fault.lacking, h]

instance (barred : String → Bool) (e : RenderError) : Decidable (Stopped barred e) :=
  decidable_of_iff' _ stopped_iff

/-- Where a rendering stops does not count. -/
theorem Stopped.locate {barred : String → Bool} (position : Option Position) (e : RenderError)
    (h : Stopped barred e) : Stopped barred (e.locate position) := h

theorem Stopped.inTemplate {barred : String → Bool} (name : Option String) (e : RenderError)
    (h : Stopped barred e) : Stopped barred (e.inTemplate name) := h

/-! ## The parts of a step -/

/-- What a decorator does once its call is known. -/
def definePart (c : Call) (body : Option Body) : Rendering Unit := do
  match ← ofExcept (c.require "inline" 0) with
  | { value := .str name, .. } =>
    match body with
    | some body => modify fun s ↦ { s with defined := (name, body) :: s.defined }
    | none => fail .bodyRequired
  | _ => fail (.wrongType "String")

/-- What a tag that puts in a part does once it is known what its name stands for. -/
def Repertoire.showIn (r : Repertoire) (sub : Show) (indent : Option String) (body : Option Body)
    (c : Call) (stage : Stage) : Option Compiled → Rendering String
  | none => fail (.partNotFound c.name)
  | some part => do
    let scopes ← ofExcept (r.partScopes c stage.scopes)
    set { stage with
      scopes, indent
      depth := if c.name = givenBody then stage.depth + 1 else stage.depth - 1
      given := body.toList ++ stage.given }
    let text ← sub part.name part.body
    set stage
    return text

/-- What a tag that puts in a part does once its call is known. -/
def Repertoire.putIn (r : Repertoire) (sub : Show) (indent : Option String) (body : Option Body)
    (c : Call) : Rendering String := do
  r.decorateAll (body.getD [])
  let stage ← get
  if stage.current = some c.name then fail .partInItself
  r.showIn sub indent body c stage (r.part? stage c.name body)

theorem Repertoire.decorate_eq (r : Repertoire) (line : Line Json) (body : Option Body) :
    r.decorate line body = (do
      let c ← r.call line
      if c.name != "inline" then fail (.decoratorNotFound c.name)
      definePart c body) := rfl

/-! ## Arguments -/

theorem logArguments_reads (c : Call) : Reads (logArguments c) (logArguments c) := by
  unfold logArguments
  dsimp only
  split
  · exact .fail _
  · exact .ofAttempt (Steady.lift (.log _))

theorem Helper.bodiless_reads (h : Helper) (s : Setting) (c : Call) :
    Reads (h.bodiless s c) (h.bodiless s c) := by
  cases h with
  | choice test => exact (Reads.ofExcept _).bind fun _ ↦ .pure _
  | each => exact (Reads.ofExcept _).bind fun _ ↦ .pure _
  | inside => exact (Reads.ofExcept _).bind fun _ ↦ .pure _
  | log => exact logArguments_reads c
  | value f => exact .pure _
  | equality test => exact .pure _
  | verbatim => exact .pure _

theorem Helper.result_reads {name : String} {h : Helper} (hh : helper? name = some h) (s : Setting)
    (c : Call) : Reads (h.result s c) (h.result s c) := by
  cases h with
  | value f => exact .ofAttempt (helper?_steady hh s c)
  | equality test => exact .pure _
  | choice test => exact (Helper.bodiless_reads (.choice test) s c).bind fun _ ↦ .pure _
  | each => exact (Helper.bodiless_reads .each s c).bind fun _ ↦ .pure _
  | inside => exact (Helper.bodiless_reads .inside s c).bind fun _ ↦ .pure _
  | log => exact (Helper.bodiless_reads .log s c).bind fun _ ↦ .pure _
  | verbatim => exact (Helper.bodiless_reads .verbatim s c).bind fun _ ↦ .pure _

namespace Repertoire

variable (r : Repertoire) (templates : List (String × Compiled))

theorem setting_reads : Reads r.setting { r with templates }.setting :=
  Reads.get.bind fun _ ↦ .pure _

/-- What an argument stands for does not depend on the templates. -/
theorem evaluate_reads (a : Argument Json) :
    Reads (r.evaluate a) ({ r with templates }.evaluate a) := by
  induction a using Repertoire.evaluate.induct
    (motive_2 := fun wanted given ↦
      Reads (r.evaluateSome wanted given) ({ r with templates }.evaluateSome wanted given)) with
  | case1 name =>
    rw [evaluate, evaluate]
    exact .pure _
  | case2 p =>
    rw [evaluate, evaluate]
    exact Reads.get.bind fun _ ↦ (Reads.ofExcept _).bind fun _ ↦ .pure _
  | case3 value =>
    rw [evaluate, evaluate]
    exact .pure _
  | case4 callee given positional named =>
    rw [evaluate, evaluate]
    refine positional.bind fun args ↦ named.bind fun ns ↦ ?_
    dsimp only
    split
    · exact .fail _
    · rename_i hh
      apply (r.setting_reads templates).bind
      intro s
      exact (Helper.result_reads hh s _).bind fun _ ↦ .pure _
  | case5 wanted =>
    rw [evaluateSome, evaluateSome]
    exact .pure _
  | case6 wanted key argument rest hw ha hrest =>
    rw [evaluateSome, evaluateSome, if_pos hw, if_pos hw]
    exact ha.bind fun _ ↦ hrest.bind fun _ ↦ .pure _
  | case7 wanted key argument rest hw hrest =>
    rw [evaluateSome, evaluateSome, if_neg hw, if_neg hw]
    exact hrest

theorem calleeName_reads (a : Argument Json) :
    Reads (r.calleeName a) ({ r with templates }.calleeName a) := by
  cases a with
  | call callee given => exact (r.evaluate_reads templates _).bind fun _ ↦ .pure _
  | word name => exact .pure _
  | path p => exact .pure _
  | literal value => exact .pure _

theorem call_reads (line : Line Json) : Reads (r.call line) ({ r with templates }.call line) := by
  unfold call
  apply (r.calleeName_reads templates _).bind
  intro name
  refine (Reads.mapM fun a _ ↦ r.evaluate_reads templates a).bind fun args ↦ ?_
  refine Reads.bind (Reads.mapM fun a _ ↦ ?_) fun named ↦ .pure _
  exact (r.evaluate_reads templates _).bind fun _ ↦ .pure _

end Repertoire

/-! ## Blocks -/

section

variable {barred : String → Bool} {sub sub' : Show}

theorem write_reads (text : String) : Reads (write text) (write text) := by
  apply Reads.get.bind
  intro s
  split
  · exact .pure _
  · exact .pure _

theorem writeValue_reads (v : Json) : Reads (writeValue v) (writeValue v) := by
  apply Reads.get.bind
  intro s
  split
  · exact write_reads _
  · exact write_reads _

/-- Values shown as they are. -/
theorem plainly_tracks {a b : Rendering String} (hab : Tracks (Stopped barred) a b) :
    Tracks (Stopped barred)
      (do
        modify fun s ↦ { s with plain := true }
        let text ← a
        modify fun s ↦ { s with plain := false }
        return text)
      (do
        modify fun s ↦ { s with plain := true }
        let text ← b
        modify fun s ↦ { s with plain := false }
        return text) :=
  (Tracks.modify _).bind fun _ ↦ hab.bind fun _ ↦ (Tracks.modify _).bind fun _ ↦ .pure _

theorem definePart_tracks (c : Call) (body : Option Body) :
    Tracks (Stopped barred) (definePart c body) (definePart c body) := by
  apply (Reads.ofExcept _).tracks.bind
  intro found
  split
  · cases body with
    | none => exact .fail _
    | some body => exact .modify _
  · exact .fail _

variable (h : ∀ name body, Tracks (Stopped barred) (sub name body) (sub' name body))

include h

theorem Show.optional_tracks (body : Option Body) :
    Tracks (Stopped barred) (sub.optional body) (sub'.optional body) := by
  cases body with
  | none => exact .pure _
  | some body => exact h none body

omit h in
theorem inScope_tracks {a b : Rendering String} (hab : Tracks (Stopped barred) a b)
    (scope : Scope) : Tracks (Stopped barred) (inScope scope a) (inScope scope b) :=
  Tracks.get.bind fun _ ↦ (Tracks.modify _).bind fun _ ↦ hab.bind fun _ ↦
    (Tracks.modify _).bind fun _ ↦ .pure _

theorem eachItem_tracks (line : Line Json) (place : Option (List String)) (body : Body)
    (counter : String) (items : List (String × Json × Json)) :
    Tracks (Stopped barred) (eachItem sub line place body counter items)
      (eachItem sub' line place body counter items) :=
  (Tracks.mapIdxM (fun _ _ ↦ inScope_tracks (h none body) _) items).bind fun _ ↦ .pure _

theorem showEach_tracks (line : Line Json) (c : Call) (body : Body) (otherwise : Option Body) :
    Tracks (Stopped barred) (showEach sub line c body otherwise)
      (showEach sub' line c body otherwise) := by
  apply (Reads.ofExcept _).tracks.bind
  intro found
  dsimp only
  split
  · exact Show.optional_tracks h otherwise
  · exact Show.optional_tracks h otherwise
  · exact eachItem_tracks h line _ body _ _
  · exact eachItem_tracks h line _ body _ _
  · exact Show.optional_tracks h otherwise

theorem showInside_tracks (line : Line Json) (c : Call) (body : Body) (otherwise : Option Body) :
    Tracks (Stopped barred) (showInside sub line c body otherwise)
      (showInside sub' line c body otherwise) := by
  apply (Reads.ofExcept _).tracks.bind
  intro found
  dsimp only
  split
  · exact inScope_tracks (h none body) _
  · exact Show.optional_tracks h otherwise

namespace Repertoire

variable (r : Repertoire) (templates : List (String × Compiled))

theorem showCall_tracks (line : Line Json) (body otherwise : Option Body) :
    Tracks (Stopped barred) (r.showCall sub line body otherwise)
      ({ r with templates }.showCall sub' line body otherwise) := by
  apply (r.call_reads templates line).tracks.bind
  intro c
  split
  · exact .fail _
  · rename_i helper hh
    apply (r.setting_reads templates).tracks.bind
    intro s
    split
    · refine (Reads.ofAttempt (helper?_steady hh s c)).tracks.bind fun _ ↦ ?_
      exact (writeValue_reads _).tracks
    · exact .pure _
    · split
      · exact h none _
      · exact Show.optional_tracks h otherwise
    · apply (Reads.ofExcept _).tracks.bind
      intro b
      split
      · exact h none _
      · exact Show.optional_tracks h otherwise
    · exact showEach_tracks h line c _ otherwise
    · exact showInside_tracks h line c _ otherwise
    · exact h none _
    · exact (Helper.bodiless_reads _ s c).tracks.bind fun _ ↦ .pure _

theorem showValue_tracks (line : Line Json) :
    Tracks (Stopped barred) (r.showValue sub line) ({ r with templates }.showValue sub' line) := by
  unfold showValue
  split
  · apply (r.calleeName_reads templates _).tracks.bind
    intro name
    split
    · exact r.showCall_tracks h templates line none none
    · apply (r.evaluate_reads templates _).tracks.bind
      intro found
      split
      · exact .pure _
      · exact (writeValue_reads _).tracks
  · exact r.showCall_tracks h templates line none none

/-! ## Parts -/

omit h in
theorem decorate_tracks (line : Line Json) (body : Option Body) :
    Tracks (Stopped barred) (r.decorate line body) ({ r with templates }.decorate line body) := by
  rw [decorate_eq, decorate_eq]
  apply (r.call_reads templates line).tracks.bind
  intro c
  split
  · exact (Tracks.fail _).bind fun _ ↦ definePart_tracks c body
  · exact definePart_tracks c body

omit h in
theorem decorateAll_tracks (body : Body) :
    Tracks (Stopped barred) (r.decorateAll body) ({ r with templates }.decorateAll body) := by
  induction body using Repertoire.decorateAll.induct with
  | case1 =>
    rw [decorateAll, decorateAll]
    exact .pure _
  | case2 position line body rest ih =>
    rw [decorateAll, decorateAll]
    exact ((r.decorate_tracks templates line body).adapt (Stopped.locate position)).bind fun _ ↦ ih
  | case3 head rest hne ih =>
    rw [decorateAll, decorateAll]
    · exact ih
    · exact hne
    · exact hne

theorem showIn_tracks (indent : Option String) (body : Option Body) (c : Call) (stage : Stage)
    (part : Option Compiled) :
    Tracks (Stopped barred) (r.showIn sub indent body c stage part)
      ({ r with templates }.showIn sub' indent body c stage part) := by
  cases part with
  | none => exact .fail _
  | some part =>
    refine (Reads.ofExcept _).tracks.bind fun scopes ↦ (Tracks.set _).bind fun _ ↦ ?_
    exact (h part.name part.body).bind fun text ↦ (Tracks.set _).bind fun _ ↦ .pure _

/-- A part of a name under which both repertoires have the same. -/
theorem putIn_tracks (indent : Option String) (body : Option Body) (c : Call)
    (hc : r.templates.lookup c.name = templates.lookup c.name) :
    Tracks (Stopped barred) (r.putIn sub indent body c)
      ({ r with templates }.putIn sub' indent body c) := by
  refine (r.decorateAll_tracks templates _).bind fun _ ↦ Tracks.get.bind fun stage ↦ ?_
  have hpart : r.part? stage c.name body = { r with templates }.part? stage c.name body := by
    rw [part?, part?, hc]
  rw [hpart]
  split
  · exact (Tracks.fail _).bind fun _ ↦ r.showIn_tracks h templates indent body c stage _
  · exact r.showIn_tracks h templates indent body c stage _

/-! ## Whole templates -/

/-- An element, behind the guard. What a tag puts in is looked at before it is looked up. -/
theorem showElement_tracks
    (hsame : ∀ name, barred name = false → r.templates.lookup name = templates.lookup name)
    (e : Element) :
    Tracks (Stopped barred) (do r.guard barred e; r.showElement sub e)
      ({ r with templates }.showElement sub' e) := by
  have hpass {a b : Rendering String} (hab : Tracks (Stopped barred) a b) :
      Tracks (Stopped barred) (do (pure () : Rendering Unit); a) b := hab
  cases e with
  | text s => exact hpass (write_reads s).tracks
  | comment => exact hpass (.pure _)
  | value line escaped =>
    cases escaped with
    | true => exact hpass (r.showValue_tracks h templates line)
    | false => exact hpass (plainly_tracks (r.showValue_tracks h templates line))
  | block line body otherwise => exact hpass (r.showCall_tracks h templates line _ otherwise)
  | decorator line body =>
    exact hpass ((r.decorate_tracks templates line body).bind fun _ ↦ .pure _)
  | part line indent body =>
    refine Tracks.guarded (r.call_reads templates line) ?_ ?_ ?_
    · exact fun c hc ↦ ⟨c.name, rfl, hc⟩
    · exact fun c hc ↦ r.putIn_tracks h templates indent body c (hsame c.name hc)
    · have hself name body := (h name body).right
      exact fun c ↦ { r with templates }.putIn_tracks hself templates indent body c rfl

omit h in
/-- A guarded rendering of a body comes to what the plain one comes to, or it stops. -/
theorem showGuarded_tracks
    (hsame : ∀ name, barred name = false → r.templates.lookup name = templates.lookup name)
    (n : Nat) (name : Option String) (body : Body) :
    Tracks (Stopped barred) (r.showGuarded barred n name body)
      ({ r with templates }.showBody n name body) := by
  induction n generalizing name body with
  | zero => exact .fail _
  | succ n ih =>
    refine (Tracks.modify _).bind fun _ ↦ Tracks.bind ?_ fun _ ↦ .pure _
    apply Tracks.mapM
    intro ⟨position, e⟩ _
    exact ((r.showElement_tracks ih templates hsame e).adapt (Stopped.locate position)).adapt
      (Stopped.inTemplate name)

end Repertoire

end

namespace Repertoire

variable (r : Repertoire)

/-- A guarded rendering of a template stops, or it comes to what the plain one comes to with every
repertoire that has the same templates under the names that are not barred. -/
theorem renderGuarded_within (templates : List (String × Compiled)) {barred : String → Bool}
    (hsame : ∀ name, barred name = false → r.templates.lookup name = templates.lookup name)
    (t : Compiled) (now : Int) :
    ∃ o : Except RenderError String, Gives now ({ r with templates }.render t).run (· = o) ∧
      Gives now (r.renderGuarded barred t).run
        fun o' ↦ o' = o ∨ ∃ e, o' = .error e ∧ Stopped barred e := by
  obtain ⟨o, hg, hp⟩ := r.showGuarded_tracks templates hsame nestingLimit t.name t.body {} now
  refine ⟨o.map Prod.fst, hp.bindExcept ?_ ?_, hg.bindExcept ?_ ?_⟩
  · rintro _ rfl
    exact .pure rfl
  · rintro _ rfl
    rfl
  · rintro x (⟨⟨⟩⟩ | ⟨_, h, -⟩)
    · exact .pure (.inl rfl)
    · cases h
  · rintro e (⟨⟨⟩⟩ | ⟨_, ⟨⟩, h⟩)
    · exact .inl rfl
    · exact .inr ⟨e, rfl, h⟩

/-- What a template is shown as depends on the clock alone. -/
theorem render_steady (t : Compiled) : Steady (r.render t).run := by
  intro now
  have hsame name (_ : (fun _ ↦ true) name = false) :
      r.templates.lookup name = r.templates.lookup name := rfl
  obtain ⟨o, ho, -⟩ := r.renderGuarded_within r.templates hsame t now
  exact ⟨o, ho⟩

/-- A rendering during which nothing under a barred name is asked for. -/
def Avoids (barred : String → Bool) (t : Compiled) (now : Int) : Prop :=
  ∀ e, answerAt now (r.renderGuarded barred t).run = .error e → ¬Stopped barred e

instance (barred : String → Bool) (t : Compiled) (now : Int) :
    Decidable (r.Avoids barred t now) :=
  inferInstanceAs (Decidable (∀ e, _ = Except.error e → ¬Stopped barred e))

/-- If a rendering asks for nothing under a barred name, it is the same with every repertoire that
has the same templates under the other names. -/
theorem render_eq_of_avoids (templates : List (String × Compiled)) {barred : String → Bool}
    {t : Compiled} {now : Int} (h : r.Avoids barred t now)
    (hsame : ∀ name, barred name = false → r.templates.lookup name = templates.lookup name) :
    answerAt now ({ r with templates }.render t).run = answerAt now (r.render t).run := by
  obtain ⟨o, ho, hg⟩ := r.renderGuarded_within templates hsame t now
  obtain ⟨o', ho', hg'⟩ := r.renderGuarded_within r.templates (fun _ _ ↦ rfl) t now
  rw [ho.answerAt_eq, ho'.answerAt_eq]
  obtain ⟨h₁, -⟩ := hg { now } rfl
  obtain ⟨h₂, -⟩ := hg' { now } rfl
  rcases h₁ with h₁ | ⟨e, he, hs⟩
  · rcases h₂ with h₂ | ⟨e, he, hs⟩
    · exact h₁.symm.trans h₂
    · exact absurd hs (h e he)
  · exact absurd hs (h e he)

/-- Repertoires that have the same under every name show a template alike. -/
theorem render_eq_of_lookup (templates : List (String × Compiled))
    (h : ∀ name, r.templates.lookup name = templates.lookup name) (t : Compiled) (now : Int) :
    answerAt now ({ r with templates }.render t).run = answerAt now (r.render t).run := by
  have havoids : r.Avoids (fun _ ↦ false) t now := by
    rintro e - ⟨name, -, hbarred⟩
    cases hbarred
  exact r.render_eq_of_avoids templates havoids fun name _ ↦ h name

end Repertoire

end Mailroom.Template
