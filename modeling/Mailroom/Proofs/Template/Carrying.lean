import Mailroom.Proofs.Template.Translating

/-!
# Texts that every page carries

A template may be bound to show a text: a tag shows it, and the tag stands outside of all blocks, in
a block that is sure to show its body, or in a part that is put in at such a place. `Body.carries`
looks for such a tag. Which tags show the text, which blocks are sure to show their bodies and which
parts carry the text, it is told by some marks. If the marks are right, the text is on every page
that the template comes to (`Repertoire.showBody_carries`), whatever else is on it.
-/

namespace Mailroom.Template

open Journal (Gives)
open Rendering (Ensures Tells Yields ofExcept)

/-! ## Places in a template -/

mutual

/-- The names of the parts that an element puts in, those in its bodies included. -/
def Element.partNames : Element → List String
  | .block _ body otherwise => Body.partNames body ++ Body.otherwisePartNames otherwise
  | .decorator _ body => Body.otherwisePartNames body
  | .part line _ body => line.callee.title :: Body.otherwisePartNames body
  | _ => []

/-- The names of the parts that a body puts in. -/
def Body.partNames : List (Option Position × Element) → List String
  | [] => []
  | (_, e) :: rest => e.partNames ++ Body.partNames rest

/-- The names of the parts that a body puts in, if there is one. -/
def Body.otherwisePartNames : Option (List (Option Position × Element)) → List String
  | some body => Body.partNames body
  | none => []

end

/-- By what it is seen that a text is shown: the tags that show it, the blocks that show their
bodies, and the parts that carry it. -/
structure Marks where
  tag : Line Json → Bool
  opens : Line Json → Bool
  parts : List String := []

mutual

/-- Whether an element shows a text by some marks. -/
def Element.carries (marks : Marks) : Element → Bool
  | .value line true => marks.tag line
  | .block line body _ => marks.opens line && Body.carries marks body
  | .part line none none =>
    line.callee.isName && line.given.isEmpty && marks.parts.contains line.callee.title
  | _ => false

/-- Whether an element of a body shows a text by some marks. -/
def Body.carries (marks : Marks) : List (Option Position × Element) → Bool
  | [] => false
  | (_, e) :: rest => e.carries marks || Body.carries marks rest

end

theorem Body.exists_of_carries {marks : Marks} {body : Body} (h : Body.carries marks body = true) :
    ∃ e ∈ body, e.2.carries marks = true := by
  induction body with
  | nil => cases h
  | cons e rest ih =>
    rw [carries, Bool.or_eq_true] at h
    obtain h | h := h
    · exact ⟨e, List.mem_cons_self, h⟩
    · obtain ⟨e', he', hcarries⟩ := ih h
      exact ⟨e', List.mem_cons_of_mem _ he', hcarries⟩

/-! ## Steps that show a text -/

/-- No block is open around an element, no part is being shown in a line of its own, and nothing has
been defined. -/
def Stage.Bare : Stage → Prop := Stage.Amid (([{}], none), [])

theorem Stage.Bare.scopes_eq {s : Stage} (h : s.Bare) : s.scopes = [{}] := h.1.scopes_eq

theorem Stage.Bare.indent_eq {s : Stage} (h : s.Bare) : s.indent = none := h.1.indent_eq

theorem Stage.Bare.escapes {s : Stage} (h : s.Bare) : s.plain = false := h.1.escapes

theorem infix_join {text : String} {texts : List String} (h : text ∈ texts) :
    text.toList <:+: (String.join texts).toList := by
  induction texts with
  | nil => cases h
  | cons first rest ih =>
    rw [String.join_cons, String.toList_append]
    obtain rfl | h := List.mem_cons.mp h
    · exact (List.prefix_append _ _).isInfix
    · exact (ih h).trans (List.suffix_append _ _).isInfix

namespace Repertoire

variable {r : Repertoire} {now : Int} {sub : Show} {line : Line Json} {P : String → Prop}

/-- A block whose condition holds shows its body. -/
theorem showIf_yields {body : Body} {otherwise : Option Body}
    (hcall : ∀ s : Stage, s.Bare → Tells now s (r.call line) fun c ↦
      c.name = "if" ∧ condition c = .ok true)
    (hsub : Yields now Stage.Bare (sub none body) P) :
    Yields now Stage.Bare (r.showCall sub line (some body) otherwise) P := by
  refine (Yields.ofTells hcall).bind ?_
  rintro c ⟨hname, hcondition⟩
  have hhelper : helper? c.name = some (.choice fun _ c ↦ condition c) := by
    rw [hname]
    rfl
  rw [hhelper]
  refine (Yields.ofTells fun s _ ↦ setting_tells).bind fun setting _ ↦ ?_
  refine (Yields.ofTells fun s _ ↦ Tells.ofExcept hcondition).bind ?_
  rintro _ rfl
  exact hsub

/-- A part that is put in as it is, where nothing has been defined under its name, is shown where it
is put in. -/
theorem showPart_yields (hname : line.callee.isName = true) (hgiven : line.given = [])
    (hother : line.callee.title ≠ givenBody) {t : Compiled}
    (ht : r.templates.lookup line.callee.title = some t)
    (hsub : Yields now Stage.Bare (sub t.name t.body) P) :
    Yields now Stage.Bare (r.showPart sub line none none) P := by
  have hvalues : List.Forall₂ (r.Means now) line.positional [] := by
    rw [Line.positional, hgiven]
    exact .nil
  have hparams : List.Forall₂ (fun (a : String × Argument Json) (p : String × Json) ↦
      a.1 = p.1 ∧ r.Means now a.2 p.2) (namedArguments line.given) [] := by
    rw [hgiven]
    simp [namedArguments]
  refine (Yields.ofTells fun s hs ↦ r.call_means hname hvalues hparams hs.scopes_eq).bind ?_
  rintro c ⟨htitle, hargs, hnamed⟩
  rw [Option.getD_none, decorateAll]
  refine (Yields.pure (P := fun _ ↦ True) trivial).bind fun _ _ ↦
    (Ensures.get.yields now).bind fun stage hstage ↦ ?_
  have hpart : r.part? stage c.name none = some t := by
    rw [part?, htitle, if_neg hother, hstage.2, ht]
    rfl
  have hscopes : r.partScopes c stage.scopes = .ok stage.scopes := by
    rw [partScopes, List.map_eq_nil_iff.mp hargs, List.map_eq_nil_iff.mp hnamed]
    rfl
  have hshown : Yields now Stage.Bare (do
      let scopes ← ofExcept (r.partScopes c stage.scopes)
      set { stage with
        scopes
        indent := none
        depth := if c.name = givenBody then stage.depth + 1 else stage.depth - 1
        given := [] ++ stage.given }
      let text ← sub t.name t.body
      set stage
      return text) P := by
    rw [hscopes]
    refine (Yields.pure (P := (· = stage.scopes)) rfl).bind ?_
    rintro _ rfl
    refine ((Ensures.set ⟨⟨hstage.scopes_eq, rfl, hstage.escapes⟩, hstage.2⟩).yields now).bind
      fun _ _ ↦ hsub.bind fun text htext ↦ ?_
    exact ((Ensures.set hstage).yields now).bind fun _ _ ↦ .pure htext
  dsimp only
  rw [hpart]
  split
  · exact (Yields.fail (P := fun _ ↦ True) _).bind fun _ _ ↦ hshown
  · exact hshown

/-! ## Marks that are right -/

/-- What marks say of a text is so at an instant. -/
structure Bears (r : Repertoire) (now : Int) (marks : Marks) (text : String) : Prop where
  tag : ∀ line, marks.tag line = true → ∀ sub,
    Yields now Stage.Bare (r.showValue sub line) (text.toList <:+: ·.toList)
  opens : ∀ line, marks.opens line = true → ∀ s : Stage, s.Bare →
    Tells now s (r.call line) fun c ↦ c.name = "if" ∧ condition c = .ok true
  parts : ∀ name ∈ marks.parts, name ≠ givenBody ∧ ∃ t, r.templates.lookup name = some t ∧
    ∀ n, Yields now Stage.Bare (r.showBody n t.name t.body) (text.toList <:+: ·.toList)

variable {marks : Marks} {text : String}

theorem showElement_carries (hr : r.Bears now marks text) {n : Nat}
    (hsub : ∀ body, Body.definesNone body = true → Body.carries marks body = true →
      Yields now Stage.Bare (r.showBody n none body) (text.toList <:+: ·.toList))
    {e : Element} (hdefines : e.definesNone = true) (h : e.carries marks = true) :
    Yields now Stage.Bare (r.showElement (r.showBody n) e) (text.toList <:+: ·.toList) := by
  cases e with
  | value line escaped =>
    cases escaped with
    | true => exact hr.tag line h _
    | false => cases h
  | block line body otherwise =>
    rw [Element.carries, Bool.and_eq_true] at h
    rw [Element.definesNone, Bool.and_eq_true] at hdefines
    exact showIf_yields (hr.opens line h.1) (hsub body hdefines.1 h.2)
  | part line indent body =>
    cases indent with
    | some blanks => cases h
    | none =>
      cases body with
      | some body => cases h
      | none =>
        simp only [Element.carries, Bool.and_eq_true, List.isEmpty_iff, List.contains_iff_mem] at h
        obtain ⟨⟨hname, hgiven⟩, hpart⟩ := h
        obtain ⟨hother, t, ht, hcarries⟩ := hr.parts _ hpart
        exact showPart_yields hname hgiven hother ht (hcarries n)
  | _ => cases h

/-- A body in which a text can be seen to be shown, and in which nothing is defined, shows it. -/
theorem showBody_carries (hr : r.Bears now marks text) {body : Body}
    (hdefines : Body.definesNone body = true) (h : Body.carries marks body = true) (n : Nat)
    (name : Option String) :
    Yields now Stage.Bare (r.showBody n name body) (text.toList <:+: ·.toList) := by
  induction n generalizing name body with
  | zero => exact .fail _
  | succ n ih =>
    have hall := Body.definesNone_iff.mp hdefines
    have hkeeps (e : Option Position × Element) (he : e ∈ body) :
        Ensures Stage.Bare (r.showElement (r.showBody n) e.2) fun _ ↦ True :=
      r.showElement_keeps (r.showBody_keeps n) nests_amid
        (r.within_amid (hall e he) fun b hb ↦ r.showBody_keeps_defined n none hb) _
    have hcurrent (s : Stage) (current : Option String) (hs : s.Bare) :
        Stage.Bare { s with current } := Stage.Amid.begin hs current
    refine (r.showBody_yields_texts hcurrent hkeeps name now).weaken ?_
    rintro _ ⟨texts, rfl, heach⟩
    obtain ⟨e, he, hcarries⟩ := Body.exists_of_carries h
    obtain ⟨shown, hshown, hyields⟩ := exists_of_forall₂ heach he
    have helement := showElement_carries hr (fun body hnone hbody ↦ ih hnone hbody none)
      (hall e he) hcarries
    exact (hyields _ helement).trans (infix_join hshown)

/-- A template in which a text can be seen to be shown, and in which nothing is defined, has it on
every page. -/
theorem render_carries (hr : r.Bears now marks text) {t : Compiled}
    (hdefines : Body.definesNone t.body = true) (h : Body.carries marks t.body = true) :
    Gives now (r.render t).run fun o ↦ ∀ page, o = .ok page → text.toList <:+: page.toList :=
  r.render_yields ⟨⟨rfl, rfl, rfl⟩, rfl⟩ (showBody_carries hr hdefines h nestingLimit t.name)

end Repertoire

end Mailroom.Template
