import Mailroom.Proofs.Composition
import Mailroom.Proofs.Template.Inclusion
import Mailroom.Proofs.Template.Library
import Mailroom.Template.Renderer

/-!
# What rendering counts

The helpers of a template count that they were given nothing to work with, and that a text was not
found in the locale that was asked for. A rendering calls helpers and logs, and so it counts nothing
but such troubles, whether it fails or not. A library counts what it compiles, and a renderer counts
the outcome of a rendering.
-/

namespace Mailroom

open Journal (MadeOf Leaves)
open Metrics (IsTrouble)

namespace Locale.Store

theorem textFor_madeOf (s : Store) (locale key : String) (params : Json.Members) :
    MadeOf IsTrouble (s.textFor locale key params) := by
  unfold textFor
  split
  · exact .pure _
  · exact (MadeOf.log _).bind fun _ ↦
      (MadeOf.count fun _ ↦ .fellBack _ _ .nothing).bind fun _ ↦ .pure _
  · exact (MadeOf.log _).bind fun _ ↦
      (MadeOf.count fun _ ↦ .textMissing .nothing).bind fun _ ↦ .pure _

theorem textsFor_madeOf (s : Store) (locale : String) : MadeOf IsTrouble (s.textsFor locale) := by
  unfold textsFor
  split
  · exact .pure _
  · exact (MadeOf.log _).bind fun _ ↦ .pure _

end Locale.Store

theorem Payload.normalize_madeOf (payload : Json.Members) :
    MadeOf IsTrouble (Payload.normalize payload) := by
  unfold Payload.normalize
  dsimp only
  split
  · split
    · exact (MadeOf.log _).bind fun _ ↦ .pure _
    · exact .pure _
  · exact .pure _

namespace Template

open Rendering (fail ofExcept ofAttempt)

/-! ## Helpers -/

/-- A failure, or a value, that is settled before the journal is looked at. -/
theorem notes_of_except {ε α : Type} (o : Except ε α) :
    MadeOf IsTrouble (ExceptT.mk (pure o) : Attempt ε α).run := .pure o

theorem emptyFor_madeOf {helper : String} (h : helper ∈ Metrics.notingHelpers) :
    MadeOf IsTrouble (emptyFor helper).run := by
  refine MadeOf.bindExcept (MadeOf.lift ((MadeOf.log _).bind fun _ ↦ ?_)) fun _ ↦ .pure _
  exact .count fun _ ↦ .emptyValue h .nothing

theorem localized_madeOf (s : Setting) (c : Call) : MadeOf IsTrouble (localized s c).run := by
  unfold localized
  apply MadeOf.bindExcept (notes_of_except _)
  intro found
  dsimp only
  split
  all_goals
    apply MadeOf.bindExcept (.pure _)
    intro key
    split
    · exact MadeOf.bindExcept (MadeOf.lift (.log _)) fun _ ↦ .pure _
    · exact MadeOf.bindExcept (MadeOf.lift (s.store.textFor_madeOf _ _ _)) fun _ ↦ .pure _

theorem dated_madeOf {helper : String} (h : helper ∈ Metrics.notingHelpers) (form : Json → String)
    (c : Call) : MadeOf IsTrouble (dated helper form c).run := by
  unfold dated
  split
  · exact emptyFor_madeOf h
  · exact .pure _

theorem presentTime_madeOf : MadeOf IsTrouble presentTime.run :=
  MadeOf.bindExcept (MadeOf.lift .clock) fun _ ↦ .pure _

theorem priced_madeOf (s : Setting) (c : Call) : MadeOf IsTrouble (priced s c).run := by
  unfold priced
  split
  · exact emptyFor_madeOf (by decide)
  · split
    · exact .pure _
    · exact .pure _

theorem summed_madeOf (c : Call) : MadeOf IsTrouble (summed c).run := by
  unfold summed
  split
  · exact .pure _
  · exact .pure _

theorem safe_madeOf (c : Call) : MadeOf IsTrouble (safe c).run := by
  unfold safe
  split
  · exact MadeOf.bindExcept (MadeOf.lift (.log _)) fun _ ↦ emptyFor_madeOf (by decide)
  · exact .pure _

/-- A helper that gives a value counts nothing but troubles. -/
theorem helper?_madeOf {name : String} {f : Setting → Call → Attempt Fault Json}
    (h : helper? name = some (.value f)) (s : Setting) (c : Call) :
    MadeOf IsTrouble (f s c).run := by
  unfold helper? at h
  split at h
  all_goals cases h
  all_goals
    first
    | with_reducible exact localized_madeOf s c
    | with_reducible exact dated_madeOf (by decide) _ c
    | with_reducible exact presentTime_madeOf
    | with_reducible exact priced_madeOf s c
    | with_reducible exact summed_madeOf c
    | with_reducible exact safe_madeOf c
    | exact notes_of_except _

/-! ## Steps -/

namespace Rendering

variable {α β γ : Type} {counts : (Metrics → Metrics) → Prop}

/-- A step of a rendering is made of certain changes of the counters, and of what counts nothing. -/
def MadeOf (counts : (Metrics → Metrics) → Prop) (act : Rendering α) : Prop :=
  ∀ s, Journal.MadeOf counts (act.run s).run

namespace MadeOf

theorem pure (x : α) : MadeOf counts (pure x) := fun _ ↦ .pure _

theorem fail (fault : Fault) : MadeOf counts (fail fault : Rendering α) := fun _ ↦ .pure _

theorem get : MadeOf counts get := fun _ ↦ .pure _

theorem set (s : Stage) : MadeOf counts (set s) := fun _ ↦ .pure _

theorem modify (f : Stage → Stage) : MadeOf counts (modify f) := fun _ ↦ .pure _

theorem bind {act : Rendering α} {f : α → Rendering β} (h : MadeOf counts act)
    (hf : ∀ x, MadeOf counts (f x)) : MadeOf counts (act >>= f) :=
  fun s ↦ .bindExcept (h s) fun x ↦ hf x.1 x.2

theorem ofExcept (o : Except Fault α) : MadeOf counts (ofExcept o) := by
  cases o with
  | ok x => exact pure x
  | error fault => exact fail fault

theorem ofAttempt {act : Attempt Fault α} (h : Journal.MadeOf counts act.run) :
    MadeOf counts (ofAttempt act) :=
  fun _ ↦ Journal.MadeOf.bindExcept (.adapt _ h) fun _ ↦ .pure _

theorem adapt {act : Rendering α} (note : RenderError → RenderError) (h : MadeOf counts act) :
    MadeOf counts fun s ↦ ExceptT.adapt note (act s) := fun s ↦ .adapt note (h s)

theorem mapM {f : γ → Rendering β} {l : List γ} (h : ∀ x ∈ l, MadeOf counts (f x)) :
    MadeOf counts (l.mapM f) := by
  induction l with
  | nil =>
    rw [List.mapM_nil]
    exact pure []
  | cons x l ih =>
    obtain ⟨hx, hl⟩ := List.forall_mem_cons.mp h
    rw [List.mapM_cons]
    exact hx.bind fun y ↦ (ih hl).bind fun ys ↦ pure (y :: ys)

theorem mapIdxM {f : Nat → γ → Rendering β} (h : ∀ i x, MadeOf counts (f i x)) (l : List γ) :
    MadeOf counts (l.mapIdxM f) := by
  have key : ∀ acc : Array β, MadeOf counts (List.mapIdxM.go f l acc) := by
    induction l with
    | nil => exact fun acc ↦ pure acc.toList
    | cons x l ih => exact fun acc ↦ (h _ x).bind fun y ↦ ih (acc.push y)
  exact key #[]

end MadeOf

end Rendering

open Rendering (MadeOf)

/-! ## Arguments -/

theorem logArguments_madeOf (c : Call) : MadeOf IsTrouble (logArguments c) := by
  unfold logArguments
  dsimp only
  split
  · exact .fail _
  · exact .ofAttempt (Journal.MadeOf.lift (.log _))

theorem Helper.bodiless_madeOf (h : Helper) (s : Setting) (c : Call) :
    MadeOf IsTrouble (h.bodiless s c) := by
  cases h with
  | choice test => exact (MadeOf.ofExcept _).bind fun _ ↦ .pure _
  | each => exact (MadeOf.ofExcept _).bind fun _ ↦ .pure _
  | inside => exact (MadeOf.ofExcept _).bind fun _ ↦ .pure _
  | log => exact logArguments_madeOf c
  | value f => exact .pure _
  | equality test => exact .pure _
  | verbatim => exact .pure _

theorem Helper.result_madeOf {name : String} {h : Helper} (hh : helper? name = some h) (s : Setting)
    (c : Call) : MadeOf IsTrouble (h.result s c) := by
  cases h with
  | value f => exact .ofAttempt (helper?_madeOf hh s c)
  | equality test => exact .pure _
  | choice test => exact (Helper.bodiless_madeOf (.choice test) s c).bind fun _ ↦ .pure _
  | each => exact (Helper.bodiless_madeOf .each s c).bind fun _ ↦ .pure _
  | inside => exact (Helper.bodiless_madeOf .inside s c).bind fun _ ↦ .pure _
  | log => exact (Helper.bodiless_madeOf .log s c).bind fun _ ↦ .pure _
  | verbatim => exact (Helper.bodiless_madeOf .verbatim s c).bind fun _ ↦ .pure _

namespace Repertoire

variable (r : Repertoire)

theorem setting_madeOf : MadeOf IsTrouble r.setting := MadeOf.get.bind fun _ ↦ .pure _

theorem evaluate_madeOf (a : Argument Json) : MadeOf IsTrouble (r.evaluate a) := by
  induction a using Repertoire.evaluate.induct
    (motive_2 := fun wanted given ↦ MadeOf IsTrouble (r.evaluateSome wanted given)) with
  | case1 name =>
    rw [evaluate]
    exact .pure _
  | case2 p =>
    rw [evaluate]
    exact MadeOf.get.bind fun _ ↦ (MadeOf.ofExcept _).bind fun _ ↦ .pure _
  | case3 value =>
    rw [evaluate]
    exact .pure _
  | case4 callee given positional named =>
    rw [evaluate]
    refine positional.bind fun args ↦ named.bind fun ns ↦ ?_
    dsimp only
    split
    · exact .fail _
    · rename_i hh
      exact r.setting_madeOf.bind fun s ↦ (Helper.result_madeOf hh s _).bind fun _ ↦ .pure _
  | case5 wanted =>
    rw [evaluateSome]
    exact .pure _
  | case6 wanted key argument rest hw ha hrest =>
    rw [evaluateSome, if_pos hw]
    exact ha.bind fun _ ↦ hrest.bind fun _ ↦ .pure _
  | case7 wanted key argument rest hw hrest =>
    rw [evaluateSome, if_neg hw]
    exact hrest

theorem calleeName_madeOf (a : Argument Json) : MadeOf IsTrouble (r.calleeName a) := by
  cases a with
  | call callee given => exact (r.evaluate_madeOf _).bind fun _ ↦ .pure _
  | word name => exact .pure _
  | path p => exact .pure _
  | literal value => exact .pure _

theorem call_madeOf (line : Line Json) : MadeOf IsTrouble (r.call line) := by
  refine (r.calleeName_madeOf _).bind fun name ↦ ?_
  refine (MadeOf.mapM fun a _ ↦ r.evaluate_madeOf a).bind fun args ↦ ?_
  refine MadeOf.bind (MadeOf.mapM fun a _ ↦ ?_) fun named ↦ .pure _
  exact (r.evaluate_madeOf _).bind fun _ ↦ .pure _

end Repertoire

/-! ## Blocks -/

theorem write_madeOf (text : String) : MadeOf IsTrouble (write text) := by
  apply MadeOf.get.bind
  intro s
  split
  · exact .pure _
  · exact .pure _

theorem writeValue_madeOf (v : Json) : MadeOf IsTrouble (writeValue v) := by
  apply MadeOf.get.bind
  intro s
  split
  · exact write_madeOf _
  · exact write_madeOf _

theorem inScope_madeOf {act : Rendering String} (h : MadeOf IsTrouble act) (scope : Scope) :
    MadeOf IsTrouble (inScope scope act) :=
  MadeOf.get.bind fun _ ↦ (MadeOf.modify _).bind fun _ ↦ h.bind fun _ ↦
    (MadeOf.modify _).bind fun _ ↦ .pure _

theorem definePart_madeOf (c : Call) (body : Option Body) :
    MadeOf IsTrouble (definePart c body) := by
  apply (MadeOf.ofExcept _).bind
  intro found
  split
  · cases body with
    | none => exact .fail _
    | some body => exact .modify _
  · exact .fail _

section

variable {sub : Show} (hsub : ∀ name body, MadeOf IsTrouble (sub name body))

include hsub

theorem Show.optional_madeOf (body : Option Body) : MadeOf IsTrouble (sub.optional body) := by
  cases body with
  | none => exact .pure _
  | some body => exact hsub none body

theorem eachItem_madeOf (line : Line Json) (place : Option (List String)) (body : Body)
    (counter : String) (items : List (String × Json × Json)) :
    MadeOf IsTrouble (eachItem sub line place body counter items) :=
  (MadeOf.mapIdxM (fun _ _ ↦ inScope_madeOf (hsub none body) _) items).bind fun _ ↦ .pure _

theorem showEach_madeOf (line : Line Json) (c : Call) (body : Body) (otherwise : Option Body) :
    MadeOf IsTrouble (showEach sub line c body otherwise) := by
  apply (MadeOf.ofExcept _).bind
  intro found
  dsimp only
  split
  · exact Show.optional_madeOf hsub otherwise
  · exact Show.optional_madeOf hsub otherwise
  · exact eachItem_madeOf hsub line _ body _ _
  · exact eachItem_madeOf hsub line _ body _ _
  · exact Show.optional_madeOf hsub otherwise

theorem showInside_madeOf (line : Line Json) (c : Call) (body : Body) (otherwise : Option Body) :
    MadeOf IsTrouble (showInside sub line c body otherwise) := by
  apply (MadeOf.ofExcept _).bind
  intro found
  dsimp only
  split
  · exact inScope_madeOf (hsub none body) _
  · exact Show.optional_madeOf hsub otherwise

namespace Repertoire

variable (r : Repertoire)

theorem showCall_madeOf (line : Line Json) (body otherwise : Option Body) :
    MadeOf IsTrouble (r.showCall sub line body otherwise) := by
  apply (r.call_madeOf line).bind
  intro c
  split
  · exact .fail _
  · rename_i helper hh
    apply r.setting_madeOf.bind
    intro s
    split
    · exact (MadeOf.ofAttempt (helper?_madeOf hh s c)).bind fun _ ↦ writeValue_madeOf _
    · exact .pure _
    · split
      · exact hsub none _
      · exact Show.optional_madeOf hsub otherwise
    · apply (MadeOf.ofExcept _).bind
      intro b
      split
      · exact hsub none _
      · exact Show.optional_madeOf hsub otherwise
    · exact showEach_madeOf hsub line c _ otherwise
    · exact showInside_madeOf hsub line c _ otherwise
    · exact hsub none _
    · exact (Helper.bodiless_madeOf _ s c).bind fun _ ↦ .pure _

theorem showValue_madeOf (line : Line Json) : MadeOf IsTrouble (r.showValue sub line) := by
  unfold showValue
  split
  · apply (r.calleeName_madeOf _).bind
    intro name
    split
    · exact r.showCall_madeOf hsub line none none
    · apply (r.evaluate_madeOf _).bind
      intro found
      split
      · exact .pure _
      · exact writeValue_madeOf _
  · exact r.showCall_madeOf hsub line none none

/-! ## Parts -/

omit hsub in
theorem decorate_madeOf (line : Line Json) (body : Option Body) :
    MadeOf IsTrouble (r.decorate line body) := by
  rw [decorate_eq]
  apply (r.call_madeOf line).bind
  intro c
  split
  · exact (MadeOf.fail _).bind fun _ ↦ definePart_madeOf c body
  · exact definePart_madeOf c body

omit hsub in
theorem decorateAll_madeOf (body : Body) : MadeOf IsTrouble (r.decorateAll body) := by
  induction body using Repertoire.decorateAll.induct with
  | case1 =>
    rw [decorateAll]
    exact .pure _
  | case2 position line body rest ih =>
    rw [decorateAll]
    exact ((r.decorate_madeOf line body).adapt (RenderError.locate position)).bind fun _ ↦ ih
  | case3 head rest hne ih =>
    rw [decorateAll]
    · exact ih
    · exact hne

theorem showIn_madeOf (indent : Option String) (body : Option Body) (c : Call) (stage : Stage)
    (part : Option Compiled) : MadeOf IsTrouble (r.showIn sub indent body c stage part) := by
  cases part with
  | none => exact .fail _
  | some part =>
    refine (MadeOf.ofExcept _).bind fun scopes ↦ (MadeOf.set _).bind fun _ ↦ ?_
    exact (hsub part.name part.body).bind fun text ↦ (MadeOf.set _).bind fun _ ↦ .pure _

theorem showPart_madeOf (line : Line Json) (indent : Option String) (body : Option Body) :
    MadeOf IsTrouble (r.showPart sub line indent body) := by
  refine (r.call_madeOf line).bind fun c ↦ (r.decorateAll_madeOf _).bind fun _ ↦ ?_
  refine MadeOf.get.bind fun stage ↦ ?_
  dsimp only
  split
  · exact (MadeOf.fail _).bind fun _ ↦ r.showIn_madeOf hsub indent body c stage _
  · exact r.showIn_madeOf hsub indent body c stage _

/-! ## Whole templates -/

theorem showElement_madeOf (e : Element) : MadeOf IsTrouble (r.showElement sub e) := by
  cases e with
  | text s => exact write_madeOf s
  | comment => exact .pure _
  | value line escaped =>
    cases escaped with
    | true => exact r.showValue_madeOf hsub line
    | false =>
      exact (MadeOf.modify _).bind fun _ ↦ (r.showValue_madeOf hsub line).bind fun _ ↦
        (MadeOf.modify _).bind fun _ ↦ .pure _
  | block line body otherwise => exact r.showCall_madeOf hsub line _ otherwise
  | decorator line body => exact (r.decorate_madeOf line body).bind fun _ ↦ .pure _
  | part line indent body => exact r.showPart_madeOf hsub line indent body

omit hsub in
theorem showBody_madeOf (n : Nat) (name : Option String) (body : Body) :
    MadeOf IsTrouble (r.showBody n name body) := by
  induction n generalizing name body with
  | zero => exact .fail _
  | succ n ih =>
    refine (MadeOf.modify _).bind fun _ ↦ MadeOf.bind (MadeOf.mapM ?_) fun _ ↦ .pure _
    intro ⟨position, e⟩ _
    exact ((r.showElement_madeOf ih e).adapt (RenderError.locate position)).adapt
      (RenderError.inTemplate name)

omit hsub in
/-- A rendering counts nothing but troubles. -/
theorem render_madeOf (t : Compiled) : Journal.MadeOf IsTrouble (r.render t).run :=
  Journal.MadeOf.bindExcept (r.showBody_madeOf nestingLimit t.name t.body {}) fun _ ↦ .pure _

end Repertoire

end

/-! ## Libraries and renderers -/

variable {lib lib' lib'' : Library} {m m' m'' : Metrics}

/-- What a library has compiled meanwhile has been counted, and nothing has been entered into the
books. -/
structure Library.Counted (lib lib' : Library) (m m' : Metrics) : Prop where
  books_eq : m'.books = m.books
  compilations_eq : m'.compilations + lib.compilations = m.compilations + lib'.compilations

namespace Library.Counted

theorem ofNoted (h : m.Noted m') : Counted lib lib m m' :=
  ⟨h.books_eq, congrArg (· + lib.compilations) h.compilations_eq⟩

theorem trans (h : Counted lib lib' m m') (h' : Counted lib' lib'' m' m'') :
    Counted lib lib'' m m'' where
  books_eq := h'.books_eq.trans h.books_eq
  compilations_eq := by
    have hfirst := h.compilations_eq
    have hlast := h'.compilations_eq
    omega

end Library.Counted

namespace Library

theorem source_madeOf (files : Files.Tree) (key : String) (lib : Library) :
    Journal.MadeOf IsTrouble (lib.source files key).run := by
  dsimp only [source]
  cases files.readText (lib.pathOf key) with
  | ok text => exact .pure _
  | error fault => exact .bindExcept (.lift (.log _)) fun _ ↦ .pure _

theorem readParts_madeOf (files : Files.Tree) (dir : String) :
    Journal.MadeOf IsTrouble (readParts files dir).run := by
  unfold readParts
  cases files.isFolder dir with
  | false => exact .bindExcept (.lift (.log _)) fun _ ↦ .pure _
  | true =>
    refine .mapM ?_ _
    rintro ⟨name, file⟩
    dsimp only
    cases files.readText (Files.join dir file) with
    | ok source => exact .pure _
    | error fault => exact .pure _

theorem fetch_madeOf (files : Files.Tree) (key : String) (lib : Library) :
    Journal.MadeOf (fun _ ↦ True) (lib.fetch files key).run := by
  refine .bindExcept (.pure _) fun _ ↦ ?_
  cases lib.kept.lookup (keptName key) with
  | some t => exact .pure _
  | none =>
    refine .bindExcept ((source_madeOf files key lib).weaken fun _ _ ↦ trivial) fun text ↦ ?_
    cases compile none text with
    | error e => exact .pure _
    | ok t =>
      refine .bindExcept (.lift (.count trivial)) fun _ ↦ ?_
      exact .bindExcept (.lift (.log _)) fun _ ↦ .pure _

theorem clear_madeOf (files : Files.Tree) (lib : Library) :
    Journal.MadeOf (fun _ ↦ True) (lib.clear files) := by
  refine ((readParts_madeOf files lib.partsDir).weaken fun _ _ ↦ trivial).bind fun o ↦ ?_
  cases o with
  | error e => exact .pure _
  | ok sources =>
    dsimp only
    split
    · exact .pure _
    · exact .bind (.count trivial) fun _ ↦ .bind (.log _) fun _ ↦ .pure _

/-- Fetching a template counts it if it has to be compiled. -/
theorem fetch_leaves (files : Files.Tree) (key : String) (lib : Library) :
    Leaves m (lib.fetch files key).run fun o m' ↦
      Counted lib (o.toOption.elim lib Prod.snd) m m' := by
  refine .bindExcept (P := fun _ m' ↦ m' = m) (.pure rfl) ?_ fun _ _ hm ↦ hm ▸ .ofNoted .nothing
  rintro _ _ rfl
  cases lib.kept.lookup (keptName key) with
  | some t => exact .pure (.ofNoted .nothing)
  | none =>
    refine ((source_madeOf files key lib).notes _).bindExcept ?_ fun _ _ hm ↦ .ofNoted hm
    intro text m₁ hm
    cases compile none text with
    | error e => exact .pure (.ofNoted hm)
    | ok t =>
      refine .lift .count ?_
      rintro _ _ rfl
      refine .lift .log ?_
      rintro _ _ rfl
      refine .pure ⟨hm.books_eq, ?_⟩
      change m₁.compilations + 1 + lib.compilations = _ + (lib.compilations + 1)
      rw [hm.compilations_eq]
      omega

/-- Clearing compiles nothing that is counted. -/
theorem clear_leaves (files : Files.Tree) (lib : Library) :
    Leaves m (lib.clear files) fun o m' ↦ Counted lib o.1 m m' := by
  refine ((readParts_madeOf files lib.partsDir).notes m).bind fun o m₁ hm ↦ ?_
  cases o with
  | error e => exact .pure (.ofNoted hm)
  | ok sources =>
    dsimp only
    have hsame : (keepParts { lib with kept := [] } sources).1.compilations = lib.compilations := by
      obtain ⟨kept, hkept⟩ := keepParts_eq { lib with kept := [] } sources
      rw [hkept]
    revert hsame
    rcases keepParts { lib with kept := [] } sources with ⟨lib', e | ⟨⟩⟩
    all_goals
      intro hsame
      dsimp only at hsame
      have hcounted : Counted lib lib' m m₁ := ⟨hm.books_eq, by rw [hm.compilations_eq, hsame]⟩
    · exact .pure hcounted
    · refine Leaves.count.bind ?_
      rintro _ _ rfl
      refine Leaves.log.bind ?_
      rintro _ _ rfl
      exact .pure ⟨hcounted.books_eq, hcounted.compilations_eq⟩

end Library

namespace Renderer

variable (files : Files.Tree) (key locale : String) (payload : Json.Members) (r : Renderer)

theorem context_madeOf : Journal.MadeOf IsTrouble (r.context locale payload) :=
  (Payload.normalize_madeOf payload).bind fun _ ↦
    (r.store.textsFor_madeOf locale).bind fun _ ↦ .pure _

theorem page_madeOf (t : Compiled) (context : Json) :
    Journal.MadeOf IsTrouble (r.page t context).run :=
  Repertoire.render_madeOf _ t

theorem page_notes (t : Compiled) (context : Json) : Journal.Notes (r.page t context).run :=
  (r.page_madeOf t context).notes

theorem attempt_madeOf :
    Journal.MadeOf (fun _ ↦ True) (r.attempt files key locale payload) := by
  refine ((r.context_madeOf locale payload).weaken fun _ _ ↦ trivial).bind fun context ↦ ?_
  refine (Library.fetch_madeOf files key r.library).bind fun fetched ↦ ?_
  cases fetched with
  | error e => exact .pure _
  | ok found =>
    refine ((page_madeOf _ found.1 context).weaken fun _ _ ↦ trivial).bind fun shown ↦ ?_
    cases shown with
    | ok page => exact .pure _
    | error e => exact (Journal.MadeOf.log _).bind fun _ ↦ .pure _

theorem render_madeOf : Journal.MadeOf (fun _ ↦ True) (r.render files key locale payload) := by
  refine (r.attempt_madeOf files key locale payload).bind ?_
  rintro ⟨r', outcome⟩
  cases outcome with
  | ok page => exact .bind (.count trivial) fun _ ↦ .pure _
  | error e => exact .bind (.count trivial) fun _ ↦ .pure _

theorem attempt_leaves :
    Leaves m (r.attempt files key locale payload) fun o m' ↦
      Library.Counted r.library o.1.library m m' := by
  refine ((r.context_madeOf locale payload).notes m).bind fun context m₁ hcontext ↦ ?_
  refine (Library.fetch_leaves files key r.library).bind fun fetched m₂ hfetched ↦ ?_
  have hcounted := (Library.Counted.ofNoted hcontext).trans hfetched
  cases fetched with
  | error e => exact .pure hcounted
  | ok found =>
    refine (page_notes { r with library := found.2 } found.1 context m₂).bind fun shown m₃ hm ↦ ?_
    have hpage := hcounted.trans (.ofNoted hm)
    cases shown with
    | ok page => exact .pure hpage
    | error e =>
      refine Leaves.log.bind ?_
      rintro _ _ rfl
      exact .pure hpage

/-- A rendering is counted by its outcome, after what has been compiled for it. -/
theorem render_leaves :
    Leaves m (r.render files key locale payload) fun o m' ↦
      ∃ m₁, Library.Counted r.library o.1.library m m₁ ∧
        m' = if o.2.toOption.isSome then m₁.renderSucceeded key else m₁.renderFailed key := by
  refine (r.attempt_leaves files key locale payload).bind ?_
  rintro ⟨r', outcome⟩ m₁ hm
  cases outcome with
  | ok page =>
    refine Leaves.count.bind ?_
    rintro _ _ rfl
    exact .pure ⟨m₁, hm, rfl⟩
  | error e =>
    refine Leaves.count.bind ?_
    rintro _ _ rfl
    exact .pure ⟨m₁, hm, rfl⟩

end Renderer

end Template

end Mailroom
