import Mailroom.Proofs.Template.Renderer
import Mailroom.Service.Sending

/-!
# What sending on request does

A step in the fulfilment of a request has an outcome and leaves a service behind, even if it fails.
The lemmas here say for each step what both may be, as long as messages are taken into memory and
the memory refuses none: sending ends with one message more, made of what the caller submitted, or
it fails and the service holds the messages that it held before.
-/

namespace Mailroom

open Journal (Gives answerAt)

variable {α β : Type} {now : Int}

namespace Serving

/-- What becomes of a step: its outcome, and the service behind it. -/
abbrev End (α : Type) := Except Failure α × Service

variable {act : Serving α} {f : α → Serving β} {s : Service} {P : End α → Prop} {Q : End β → Prop}

theorem gives_bind (h : Gives now (act.run s) P)
    (hok : ∀ a s', P (.ok a, s') → Gives now ((f a).run s') Q)
    (herror : ∀ e s', P (.error e, s') → Q (.error e, s')) : Gives now ((act >>= f).run s) Q := by
  change Gives now (act.run s >>= fun (o, s') ↦ ExceptT.bindCont f o s') Q
  apply h.bind
  rintro ⟨o, s'⟩ ho
  cases o with
  | ok a => exact hok a s' ho
  | error e => exact .pure (herror e s' ho)

theorem gives_get {f : Service → Serving β} (h : Gives now ((f s).run s) Q) :
    Gives now ((get >>= f).run s) Q := h

theorem gives_set {s' : Service} {f : Unit → Serving β} (h : Gives now ((f ()).run s') Q) :
    Gives now (((set s' : Serving Unit) >>= f).run s) Q := h

/-- An operation that may log and count, and does not touch the service. -/
theorem gives_lift {op : Journaled α} {R : α → Prop} (h : Gives now op R)
    (hf : ∀ a, R a → Gives now ((f a).run s) Q) :
    Gives now (((liftM op : Serving α) >>= f).run s) Q := by
  intro j hj
  obtain ⟨ha, hnow⟩ := h j hj
  exact hf _ ha _ hnow

end Serving

/-! ## Failures -/

/-- A failure that has nothing to do with who may pass and how often. -/
def Failure.IsLate (f : Failure) : Prop := f.kind ≠ .unauthorized ∧ f.kind ≠ .rateLimited

theorem Failure.template_isLate (e : Template.LibraryError) : (Failure.template e).IsLate := by
  cases e with
  | _ => exact ⟨nofun, nofun⟩

/-- A failure is never answered as a success is. -/
theorem Failure.Kind.status_ne_ok (k : Kind) : k.status ≠ 200 := by
  cases k with
  | _ => exact nofun

theorem Failure.IsLate.status_ne {f : Failure} (h : f.IsLate) :
    f.kind.status ≠ 401 ∧ f.kind.status ≠ 429 := by
  obtain ⟨hkey, hrate⟩ := h
  cases hk : f.kind with
  | unauthorized => exact absurd hk hkey
  | rateLimited => exact absurd hk hrate
  | _ => exact ⟨nofun, nofun⟩

namespace Service

open Http (Request)

variable {s : Service} {box : List Mail.Delivered} {r : Request}

/-- A service that takes messages into memory, and has taken these. -/
def Holds (s : Service) (box : List Mail.Delivered) : Prop :=
  s.transport = .memory { delivered := box }

/-! ## The steps of sending -/

theorem submitted_gives :
    Gives now ((submitted r).run s) fun (o, s') ↦ s = s' ∧
      ((∃ submission, submissionOf s.settings.server.bodyLimit r = .ok submission ∧
          o = .ok submission) ∨
        ∃ e, e.IsLate ∧ o = .error e) := by
  refine Serving.gives_get ?_
  cases submissionOf s.settings.server.bodyLimit r with
  | ok submission => exact .pure ⟨rfl, .inl ⟨submission, rfl, rfl⟩⟩
  | error problems => exact .pure ⟨rfl, .inr ⟨refusal problems, ⟨nofun, nofun⟩, rfl⟩⟩

theorem page_gives (h : s.Holds box) (key locale : String) (payload : Json.Members) :
    Gives now ((page key locale payload).run s) fun (o, s') ↦ s'.Holds box ∧
      ((∃ html, (answerAt now (s.renderer.render s.files key locale payload)).2 = .ok html ∧
          o = .ok html) ∨
        ∃ e, e.IsLate ∧ o = .error e) := by
  refine Serving.gives_get ?_
  refine Serving.gives_lift ((s.renderer.render_steady s.files key locale payload).gives now) ?_
  rintro ⟨renderer, outcome⟩ hrender
  rw [← hrender]
  refine Serving.gives_set ?_
  cases outcome with
  | ok html => exact .pure ⟨h, .inl ⟨html, rfl, rfl⟩⟩
  | error e => exact .pure ⟨h, .inr ⟨.template e, Failure.template_isLate e, rfl⟩⟩

theorem send_gives (h : s.Holds box) (fresh : Mail.Fresh) (m : Mail.Outgoing) :
    Gives now (s.transport.send fresh m) fun (transport, outcome) ↦
      ∃ id, outcome = .ok id ∧ transport = .memory { delivered := box ++ [⟨id, m⟩] } := by
  rw [show s.transport = .memory { delivered := box } from h]
  refine Gives.bind (P := fun o ↦
    ∃ id, o.2 = .ok id ∧ o.1 = { delivered := box ++ [⟨id, m⟩] }) ?_ ?_
  · exact Gives.log.bind fun _ _ ↦ .pure ⟨_, rfl, rfl⟩
  · rintro ⟨box', outcome⟩ ⟨id, rfl, rfl⟩
    exact .pure ⟨id, rfl, rfl⟩

theorem dispatch_gives (h : s.Holds box) (fresh : Mail.Fresh) (key locale : String)
    (m : Mail.Outgoing) :
    Gives now ((dispatch fresh key locale m).run s) fun (o, s') ↦
      ∃ id, o = .ok id ∧ s'.Holds (box ++ [⟨id, m⟩]) := by
  refine Serving.gives_get ?_
  refine Serving.gives_lift (send_gives h fresh m) ?_
  rintro ⟨transport, outcome⟩ ⟨id, rfl, htransport⟩
  refine Serving.gives_set ?_
  exact Serving.gives_lift .count fun _ _ ↦ .pure ⟨id, rfl, htransport⟩

/-! ## Sending -/

/-- A message is the one that a request for a template asks for at an instant: the body of the
request is read as a submission that has no problems, and the message is made of it. -/
structure Requested (s : Service) (now : Int) (key : String) (r : Request)
    (submission : Submission) (m : Mail.Outgoing) : Prop where
  decoded : ∃ v, documentOf s.settings.server.bodyLimit r = .ok v ∧
    Submission.ofShape v = .ok submission
  valid : submission.problems = []
  addressees_eq : m.addressees = submission.addressees
  cc_eq : m.cc = (submission.extras.map (·.cc)).getD []
  bcc_eq : m.bcc = (submission.extras.map (·.bcc)).getD []
  replyTo_eq : m.replyTo = submission.extras.bind (·.replyTo)
  subject_eq : m.subject =
    (submission.subject.filter fun t ↦ !Text.isBlankText t).getD
      (s.renderer.subject submission.locale key)
  html_eq : (answerAt now
    (s.renderer.render s.files key submission.locale submission.payload)).2 = .ok m.html

theorem submissionOf_eq_ok {limit : Nat} {submission : Submission}
    (h : submissionOf limit r = .ok submission) :
    (∃ v, documentOf limit r = .ok v ∧ Submission.ofShape v = .ok submission) ∧
      submission.problems = [] := by
  unfold submissionOf at h
  cases hv : documentOf limit r with
  | error reason =>
    rw [hv] at h
    cases h
  | ok v =>
    rw [hv] at h
    dsimp only [Submission.ofJson] at h
    cases hs : Submission.ofShape v with
    | error e =>
      rw [hs] at h
      cases h
    | ok found =>
      rw [hs] at h
      dsimp only at h
      split at h
      · rename_i hp
        cases h
        exact ⟨⟨v, rfl, hs⟩, List.isEmpty_iff.mp hp⟩
      · cases h

theorem requested_toMessage {key html : String} {submission : Submission}
    (hsubmission : submissionOf s.settings.server.bodyLimit r = .ok submission)
    (hhtml : (answerAt now
      (s.renderer.render s.files key submission.locale submission.payload)).2 = .ok html) :
    s.Requested now key r submission (submission.toMessage
      (submission.ownSubject?.getD (s.renderer.subject submission.locale key)) html) := by
  obtain ⟨hdecoded, hvalid⟩ := submissionOf_eq_ok hsubmission
  refine ⟨hdecoded, hvalid, rfl, ?_, ?_, ?_, rfl, hhtml⟩
  all_goals
    unfold Submission.toMessage
    cases submission.extras with
    | none => rfl
    | some extras => rfl

/-- Sending ends with one message more, or it fails and there is none. -/
theorem sendFor_gives (h : s.Holds box) (fresh : Mail.Fresh) (key : String) (r : Request) :
    Gives now ((sendFor fresh key r).run s) fun (o, s') ↦
      (∃ id submission m, o = .ok id ∧ s'.Holds (box ++ [⟨id, m⟩]) ∧
          s.Requested now key r submission m) ∨
        ∃ e, e.IsLate ∧ o = .error e ∧ s'.Holds box := by
  refine Serving.gives_bind submitted_gives ?_ ?_
  · rintro submission _ ⟨rfl, ⟨_, hsubmission, ⟨⟩⟩ | ⟨_, _, h⟩⟩
    · refine Serving.gives_get ?_
      cases s.renderer.library.has s.files key with
      | false => exact .pure (.inr ⟨.notImplemented _, ⟨nofun, nofun⟩, rfl, h⟩)
      | true =>
        refine Serving.gives_bind (page_gives h key submission.locale submission.payload) ?_ ?_
        · rintro html s₁ ⟨h₁, ⟨_, hhtml, ⟨⟩⟩ | ⟨_, _, herror⟩⟩
          · refine Serving.gives_bind (dispatch_gives h₁ fresh key submission.locale _) ?_ ?_
            · rintro id s₂ ⟨_, ⟨⟩, h₂⟩
              refine Serving.gives_get (Serving.gives_lift .log fun _ _ ↦ .pure (.inl ?_))
              exact ⟨id, submission, _, rfl, h₂, requested_toMessage hsubmission hhtml⟩
            · rintro e s₂ ⟨_, ⟨⟩, _⟩
          · cases herror
        · rintro e s₁ ⟨h₁, ⟨_, _, ⟨⟩⟩ | ⟨_, hlate, ⟨⟩⟩⟩
          exact .inr ⟨e, hlate, rfl, h₁⟩
    · cases h
  · rintro e _ ⟨rfl, ⟨_, _, ⟨⟩⟩ | ⟨_, hlate, ⟨⟩⟩⟩
    exact .inr ⟨e, hlate, rfl, h⟩

/-- Clearing the templates sends nothing. -/
theorem clearTemplates_gives (h : s.Holds box) :
    Gives now (clearTemplates.run s) fun (o, s') ↦ s'.Holds box ∧
      ∀ e, o = .error e → e.IsLate := by
  refine Serving.gives_get ?_
  refine Serving.gives_lift Template.Library.clear_gives ?_
  rintro ⟨library, outcome⟩ -
  refine Serving.gives_set ?_
  cases outcome with
  | ok n => exact .pure ⟨h, nofun⟩
  | error e => exact .pure ⟨h, fun _ he ↦ Except.error.inj he ▸ Failure.template_isLate e⟩

end Service

end Mailroom
