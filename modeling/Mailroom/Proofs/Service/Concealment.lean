import Mathlib.Data.List.Forall2
import Mailroom.Proofs.Service.Delivery
import Mailroom.Proofs.Template.Counting
import Mailroom.Settings.Load

/-!
# What callers learn of a failed delivery

In production a caller is told that a message could not be sent, and not why. This module compares
two runs of a service whose transports refuse every message, each for a reason of its own: nothing
that is answered tells the two runs apart, whatever is asked in whatever order.

The service of one run is that of the other with another reason (`Service.Twins`), and it stays so
while they answer the same requests. Both log their own reasons, and count the same. The names that
are generated may be different; only the identification of a request is answered.
-/

namespace Mailroom

open Journal (Agree)

/-! ## Two steps side by side -/

namespace Serving

variable {α β γ : Type} {s₁ s₂ : Service} {R : End β → End γ → Prop}

theorem agree_get {f₁ : Service → Serving β} {f₂ : Service → Serving γ}
    (h : Agree ((f₁ s₁).run s₁) ((f₂ s₂).run s₂) R) :
    Agree ((get >>= f₁).run s₁) ((get >>= f₂).run s₂) R := h

theorem agree_set {t₁ t₂ : Service} {f₁ : Unit → Serving β} {f₂ : Unit → Serving γ}
    (h : Agree ((f₁ ()).run t₁) ((f₂ ()).run t₂) R) :
    Agree (((set t₁ : Serving Unit) >>= f₁).run s₁) (((set t₂ : Serving Unit) >>= f₂).run s₂) R := h

/-- An operation that may log and count, and does not touch the service. -/
theorem agree_lift {op₁ op₂ : Journaled α} {Q : α → α → Prop} {f₁ : α → Serving β}
    {f₂ : α → Serving γ} (h : Agree op₁ op₂ Q)
    (hf : ∀ a₁ a₂, Q a₁ a₂ → Agree ((f₁ a₁).run s₁) ((f₂ a₂).run s₂) R) :
    Agree (((liftM op₁ : Serving α) >>= f₁).run s₁) (((liftM op₂ : Serving α) >>= f₂).run s₂)
      R := by
  intro j₁ j₂ hj
  obtain ⟨ha, hjournals⟩ := h j₁ j₂ hj
  exact hf _ _ ha _ _ hjournals

end Serving

/-- A transport that refuses every message, for a reason. -/
def Mail.Transport.failing (reason : String) : Transport := .memory { refusal := some reason }

namespace Service

open Http (Request Response)

variable {α β : Type} {r₁ r₂ : String} {s₁ s₂ : Service} {q : Request}

/-! ## Twins -/

/-- The service with a transport that refuses every message, for a reason. -/
def refusing (s : Service) (reason : String) : Service := { s with transport := .failing reason }

/-- Two services in production that refuse every message, and differ in nothing but the reason. -/
inductive Twins (r₁ r₂ : String) : Service → Service → Prop where
  | intro (s : Service) (h : s.production = true) : Twins r₁ r₂ (s.refusing r₁) (s.refusing r₂)

namespace Twins

theorem production_eq (h : Twins r₁ r₂ s₁ s₂) : s₁.production = true ∧ s₂.production = true := by
  obtain ⟨s, hs⟩ := h
  exact ⟨hs, hs⟩

theorem settings_eq (h : Twins r₁ r₂ s₁ s₂) : s₁.settings = s₂.settings := by cases h; rfl

theorem origins_eq (h : Twins r₁ r₂ s₁ s₂) : s₁.origins = s₂.origins := by cases h; rfl

theorem files_eq (h : Twins r₁ r₂ s₁ s₂) : s₁.files = s₂.files := by cases h; rfl

theorem renderer_eq (h : Twins r₁ r₂ s₁ s₂) : s₁.renderer = s₂.renderer := by cases h; rfl

theorem limiter_eq (h : Twins r₁ r₂ s₁ s₂) : s₁.limiter = s₂.limiter := by cases h; rfl

theorem limited (h : Twins r₁ r₂ s₁ s₂) (limiter : Rate.Limiter) :
    Twins r₁ r₂ { s₁ with limiter } { s₂ with limiter } := by
  obtain ⟨s, hs⟩ := h
  exact .intro { s with limiter } hs

end Twins

/-- Two outcomes that a caller in production cannot tell apart. -/
inductive Indistinct : Except Failure α → Except Failure α → Prop where
  | ok (a : α) : Indistinct (.ok a) (.ok a)
  | error {e₁ e₂ : Failure} (h : e₁.response true = e₂.response true) :
    Indistinct (.error e₁) (.error e₂)

/-- A step ends alike for twins: they stay twins, and a caller cannot tell the outcomes apart. -/
structure EndsAlike (r₁ r₂ : String) (x₁ x₂ : Serving.End α) : Prop where
  outcome : Indistinct x₁.1 x₂.1
  twins : Twins r₁ r₂ x₁.2 x₂.2

/-- Twins have one answer, and stay twins. -/
structure AnsweredAlike (r₁ r₂ : String) (x₁ x₂ : Service × Response) : Prop where
  twins : Twins r₁ r₂ x₁.1 x₂.1
  response_eq : x₁.2 = x₂.2

theorem EndsAlike.ok (a : α) (h : Twins r₁ r₂ s₁ s₂) : EndsAlike r₁ r₂ (.ok a, s₁) (.ok a, s₂) :=
  ⟨.ok a, h⟩

/-- A failure that has nothing to do with the reasons. -/
theorem EndsAlike.error (e : Failure) (h : Twins r₁ r₂ s₁ s₂) :
    EndsAlike (α := α) r₁ r₂ (.error e, s₁) (.error e, s₂) := ⟨.error rfl, h⟩

theorem bind_alike {act₁ act₂ : Serving α} {f₁ f₂ : α → Serving β}
    (h : Agree (act₁.run s₁) (act₂.run s₂) (EndsAlike r₁ r₂))
    (hf : ∀ a t₁ t₂, Twins r₁ r₂ t₁ t₂ →
      Agree ((f₁ a).run t₁) ((f₂ a).run t₂) (EndsAlike r₁ r₂)) :
    Agree ((act₁ >>= f₁).run s₁) ((act₂ >>= f₂).run s₂) (EndsAlike r₁ r₂) := by
  change Agree (act₁.run s₁ >>= fun (o, t) ↦ ExceptT.bindCont f₁ o t)
    (act₂.run s₂ >>= fun (o, t) ↦ ExceptT.bindCont f₂ o t) _
  apply h.bind
  rintro ⟨o₁, t₁⟩ ⟨o₂, t₂⟩ ⟨houtcome, htwins⟩
  cases houtcome with
  | ok a => exact hf a t₁ t₂ htwins
  | error he => exact .pure ⟨.error he, htwins⟩

/-! ## The steps of sending -/

theorem submitted_alike (h : Twins r₁ r₂ s₁ s₂) :
    Agree ((submitted q).run s₁) ((submitted q).run s₂) (EndsAlike r₁ r₂) := by
  refine Serving.agree_get ?_
  rw [h.settings_eq]
  cases submissionOf s₂.settings.server.bodyLimit q with
  | ok submission => exact .pure (.ok submission h)
  | error problems => exact .pure (.error _ h)

theorem page_alike (h : Twins r₁ r₂ s₁ s₂) (key locale : String) (payload : Json.Members) :
    Agree ((page key locale payload).run s₁) ((page key locale payload).run s₂)
      (EndsAlike r₁ r₂) := by
  obtain ⟨s, hs⟩ := h
  refine Serving.agree_get ?_
  refine Serving.agree_lift (s.renderer.render_madeOf s.files key locale payload).agree ?_
  rintro ⟨renderer, outcome⟩ _ rfl
  refine Serving.agree_set ?_
  have htwins : Twins r₁ r₂ _ _ := .intro { s with renderer } hs
  cases outcome with
  | ok html => exact .pure (.ok html htwins)
  | error e => exact .pure (.error _ htwins)

/-- Both messages are refused, and the callers are told the same. -/
theorem dispatch_alike (h : Twins r₁ r₂ s₁ s₂) (fresh₁ fresh₂ : Mail.Fresh) (key locale : String)
    (m : Mail.Outgoing) :
    Agree ((dispatch fresh₁ key locale m).run s₁) ((dispatch fresh₂ key locale m).run s₂)
      (EndsAlike r₁ r₂) := by
  obtain ⟨s, hs⟩ := h
  refine Serving.agree_get ?_
  have hsend : Agree ((s.refusing r₁).transport.send fresh₁ m)
      ((s.refusing r₂).transport.send fresh₂ m) fun o₁ o₂ ↦
        o₁ = (.failing r₁, .error (.send r₁)) ∧ o₂ = (.failing r₂, .error (.send r₂)) :=
    .pure ⟨rfl, rfl⟩
  refine Serving.agree_lift hsend ?_
  rintro _ _ ⟨rfl, rfl⟩
  refine Serving.agree_set ?_
  refine Serving.agree_lift (.count _) fun _ _ _ ↦ ?_
  refine Serving.agree_lift (.log _ _) fun _ _ _ ↦ ?_
  exact .pure ⟨.error rfl, .intro s hs⟩

theorem sendFor_alike (h : Twins r₁ r₂ s₁ s₂) (fresh₁ fresh₂ : Mail.Fresh) (key : String) :
    Agree ((sendFor fresh₁ key q).run s₁) ((sendFor fresh₂ key q).run s₂) (EndsAlike r₁ r₂) := by
  refine bind_alike (submitted_alike h) fun submission t₁ t₂ h ↦ ?_
  refine Serving.agree_get ?_
  rw [h.renderer_eq, h.files_eq]
  cases t₂.renderer.library.has t₂.files key with
  | false => exact .pure (.error _ h)
  | true =>
    refine bind_alike (page_alike h key _ _) fun html u₁ u₂ h ↦ ?_
    refine bind_alike (dispatch_alike h fresh₁ fresh₂ key _ _) fun id v₁ v₂ h ↦ ?_
    exact Serving.agree_get (Serving.agree_lift (.log _ _) fun _ _ _ ↦ .pure (.ok id h))

theorem clearTemplates_alike (h : Twins r₁ r₂ s₁ s₂) :
    Agree (clearTemplates.run s₁) (clearTemplates.run s₂) (EndsAlike r₁ r₂) := by
  obtain ⟨s, hs⟩ := h
  refine Serving.agree_get ?_
  refine Serving.agree_lift (s.renderer.library.clear_madeOf s.files).agree ?_
  rintro ⟨library, outcome⟩ _ rfl
  refine Serving.agree_set ?_
  have htwins : Twins r₁ r₂ _ _ := .intro { s with renderer := { s.renderer with library } } hs
  cases outcome with
  | ok n => exact .pure (.ok n htwins)
  | error e => exact .pure (.error _ htwins)

/-! ## Answers -/

theorem answer_alike {e₁ e₂ : Failure} (he : e₁.response true = e₂.response true)
    (h : Twins r₁ r₂ s₁ s₂) :
    Agree (e₁.answer s₁.production) (e₂.answer s₂.production) Eq := by
  obtain ⟨h₁, h₂⟩ := h.production_eq
  rw [h₁, h₂]
  exact (Agree.log _ _).bind fun _ _ _ ↦ .pure he

theorem answerEmail_alike (h : Twins r₁ r₂ s₁ s₂) (fresh₁ fresh₂ : Fresh) (segment : String) :
    Agree (s₁.answerEmail fresh₁ segment q) (s₂.answerEmail fresh₂ segment q)
      (AnsweredAlike r₁ r₂) := by
  unfold answerEmail
  cases Http.segmentText? segment with
  | none => exact .pure ⟨h, rfl⟩
  | some key =>
    refine (sendFor_alike h fresh₁.message fresh₂.message key).within.bind ?_
    rintro ⟨o₁, t₁⟩ ⟨o₂, t₂⟩ ⟨houtcome, htwins⟩
    cases houtcome with
    | ok id => exact .pure ⟨htwins, rfl⟩
    | error he => exact (answer_alike he htwins).bind fun _ _ hresponse ↦ .pure ⟨htwins, hresponse⟩

theorem clearTemplates_answered_alike (h : Twins r₁ r₂ s₁ s₂) :
    Agree (s₁.answered (clearedResponse <$> clearTemplates))
      (s₂.answered (clearedResponse <$> clearTemplates)) (AnsweredAlike r₁ r₂) := by
  have hcleared : Agree ((clearedResponse <$> clearTemplates).run s₁)
      ((clearedResponse <$> clearTemplates).run s₂) (EndsAlike r₁ r₂) := by
    rw [map_eq_pure_bind]
    exact bind_alike (clearTemplates_alike h) fun n _ _ h ↦ .pure (.ok (clearedResponse n) h)
  refine hcleared.bind ?_
  rintro ⟨o₁, t₁⟩ ⟨o₂, t₂⟩ ⟨houtcome, htwins⟩
  cases houtcome with
  | ok response => exact .pure ⟨htwins, rfl⟩
  | error he => exact (answer_alike he htwins).bind fun _ _ hresponse ↦ .pure ⟨htwins, hresponse⟩

theorem health_alike (h : Twins r₁ r₂ s₁ s₂) (now : Int) : s₁.health now = s₂.health now := by
  cases h
  rfl

/-- What is counted is the same for both, and so is what is told of it. -/
theorem metrics_alike (h : Twins r₁ r₂ s₁ s₂) : Agree s₁.metrics s₂.metrics Eq := by
  unfold metrics
  rw [h.renderer_eq]
  refine (Agree.count _).bind fun _ _ _ j₁ j₂ hj ↦ ⟨?_, hj⟩
  exact congrArg metricsResponse hj.metrics_eq

theorem answerRoute_alike (h : Twins r₁ r₂ s₁ s₂) (fresh₁ fresh₂ : Fresh) (route : Route) :
    Agree (s₁.answerRoute fresh₁ route q) (s₂.answerRoute fresh₂ route q)
      (AnsweredAlike r₁ r₂) := by
  unfold answerRoute
  cases route.methods.contains q.method with
  | false => exact .pure ⟨h, rfl⟩
  | true =>
    cases route with
    | email segment => exact answerEmail_alike h fresh₁ fresh₂ segment
    | templates => exact clearTemplates_answered_alike h
    | health =>
      refine Agree.clock.bind ?_
      rintro now _ rfl
      exact .pure ⟨h, congrArg (Response.ofJson 200) (health_alike h now)⟩
    | metrics => exact (metrics_alike h).bind fun _ _ hresponse ↦ .pure ⟨h, hresponse⟩
    | nowhere => exact .pure ⟨h, rfl⟩

theorem answerKeyed_alike (h : Twins r₁ r₂ s₁ s₂) (fresh₁ fresh₂ : Fresh) (route : Route) :
    Agree (s₁.answerKeyed fresh₁ route q) (s₂.answerKeyed fresh₂ route q)
      (AnsweredAlike r₁ r₂) := by
  unfold answerKeyed
  rw [h.settings_eq]
  cases refusal? s₂.settings.api.key q with
  | none => exact answerRoute_alike h fresh₁ fresh₂ route
  | some refusal =>
    refine (Agree.log _ _).bind fun _ _ _ ↦ ?_
    exact (answer_alike rfl h).bind fun _ _ hresponse ↦ .pure ⟨h, hresponse⟩

theorem answerLimited_alike (h : Twins r₁ r₂ s₁ s₂) (fresh₁ fresh₂ : Fresh) (route : Route) :
    Agree (s₁.answerLimited fresh₁ route q) (s₂.answerLimited fresh₂ route q)
      (AnsweredAlike r₁ r₂) := by
  unfold answerLimited
  rw [h.limiter_eq]
  cases s₂.limiter.settings.enabled with
  | false => exact answerKeyed_alike h fresh₁ fresh₂ route
  | true =>
    have hcheck : Agree (s₂.limiter.check (clientOf q)) (s₂.limiter.check (clientOf q)) Eq :=
      Agree.clock.bind fun _ _ hnow ↦ .pure (by rw [hnow])
    refine hcheck.bind ?_
    rintro ⟨limiter, verdict⟩ _ rfl
    have htwins := h.limited limiter
    cases verdict with
    | allowed remaining limit resetAt =>
      refine (Agree.count _).bind fun _ _ _ ↦ ?_
      refine (answerKeyed_alike htwins fresh₁ fresh₂ route).bind ?_
      rintro ⟨t₁, response⟩ ⟨t₂, _⟩ ⟨htwins, rfl⟩
      exact .pure ⟨htwins, rfl⟩
    | denied retryAfter limit resetAt =>
      refine (Agree.count _).bind fun _ _ _ ↦ (Agree.log _ _).bind fun _ _ _ ↦ ?_
      refine (answer_alike rfl htwins).bind ?_
      rintro response _ rfl
      exact .pure ⟨htwins, rfl⟩

theorem answerBounded_alike (h : Twins r₁ r₂ s₁ s₂) (fresh₁ fresh₂ : Fresh) (route : Route) :
    Agree (s₁.answerBounded fresh₁ route q) (s₂.answerBounded fresh₂ route q)
      (AnsweredAlike r₁ r₂) := by
  unfold answerBounded
  rw [h.settings_eq]
  cases isTooLong s₂.settings.server.bodyLimit q with
  | true => exact .pure ⟨h, rfl⟩
  | false =>
    cases route.isProtected with
    | true => exact answerLimited_alike h fresh₁ fresh₂ route
    | false => exact answerRoute_alike h fresh₁ fresh₂ route

theorem report_madeOf (status : Nat) : Journal.MadeOf (fun _ ↦ False) (report status) := by
  unfold report
  refine .bind (.log _) fun _ ↦ ?_
  split
  · exact .log _
  · exact .pure ()

theorem answerTraced_alike (h : Twins r₁ r₂ s₁ s₂) (fresh₁ fresh₂ : Fresh) (id₁ id₂ : String)
    (route : Route) :
    Agree (s₁.answerTraced fresh₁ id₁ route q) (s₂.answerTraced fresh₂ id₂ route q)
      (AnsweredAlike r₁ r₂) := by
  refine Agree.within ((Agree.log _ _).bind fun _ _ _ ↦ ?_)
  refine (answerBounded_alike h fresh₁ fresh₂ route).bind ?_
  rintro ⟨t₁, response⟩ ⟨t₂, _⟩ ⟨htwins, rfl⟩
  exact (report_madeOf response.status).agree.bind fun _ _ _ ↦ .pure ⟨htwins, rfl⟩

/-! ## The identification of a request -/

/-- A response apart from the identification of its request. -/
def unnamed (response : Response) : Response :=
  { response with headers := response.headers.filter (·.1 != "x-request-id") }

theorem unnamed_withHeader (response : Response) (id : String) :
    unnamed (response.withHeader "x-request-id" id) = unnamed response := by
  simp [unnamed, Response.withHeader]

theorem unnamed_sentTo (q : Request) (response : Response) :
    unnamed (sentTo q response) = sentTo q (unnamed response) := by
  unfold sentTo
  split
  · rfl
  · rfl

/-- Twins serve a request alike, but for the names that are generated for it. -/
structure ServedAlike (r₁ r₂ : String) (fresh₁ fresh₂ : Fresh) (x₁ x₂ : Service × Response) :
    Prop where
  twins : Twins r₁ r₂ x₁.1 x₂.1
  unnamed_eq : unnamed x₁.2 = unnamed x₂.2
  response_eq : fresh₁ = fresh₂ → x₁.2 = x₂.2

theorem serve_alike (h : Twins r₁ r₂ s₁ s₂) (fresh₁ fresh₂ : Fresh) (q : Request) :
    Agree (s₁.serve fresh₁ q) (s₂.serve fresh₂ q) (ServedAlike r₁ r₂ fresh₁ fresh₂) := by
  have hnamed {t₁ t₂ : Service} (ht : Twins r₁ r₂ t₁ t₂) (response : Response) :
      ServedAlike r₁ r₂ fresh₁ fresh₂
        (t₁, sentTo q (response.withHeader "x-request-id" (identify fresh₁ q)))
        (t₂, sentTo q (response.withHeader "x-request-id" (identify fresh₂ q))) := by
    refine ⟨ht, ?_, ?_⟩
    · rw [unnamed_sentTo, unnamed_sentTo, unnamed_withHeader, unnamed_withHeader]
    · rintro rfl
      rfl
  unfold serve
  dsimp only
  rw [h.origins_eq]
  split
  · exact .pure (hnamed h _)
  · refine (answerTraced_alike h fresh₁ fresh₂ _ _ _).bind ?_
    rintro ⟨t₁, response⟩ ⟨t₂, _⟩ ⟨htwins, rfl⟩
    dsimp only
    rw [htwins.origins_eq]
    exact .pure (hnamed htwins _)

/-! ## Runs -/

/-- Events that differ only in the names that are generated for the requests. -/
inductive Event.Like : Event → Event → Prop where
  | clock (now : Int) : Like (.clock now) (.clock now)
  | request (fresh₁ fresh₂ : Fresh) (q : Request) : Like (.request fresh₁ q) (.request fresh₂ q)

theorem Event.like_refl (events : List Event) : List.Forall₂ Event.Like events events := by
  refine List.forall₂_same.mpr fun e _ ↦ ?_
  cases e with
  | clock now => exact .clock now
  | request fresh q => exact .request fresh fresh q

theorem exchanges_alike {j₁ j₂ : Journal} {events₁ events₂ : List Event}
    (h : Twins r₁ r₂ s₁ s₂) (hj : j₁.Alike j₂) (hevents : List.Forall₂ Event.Like events₁ events₂) :
    (s₁.exchanges j₁ events₁).map (unnamed ·.response) =
        (s₂.exchanges j₂ events₂).map (unnamed ·.response) ∧
      (events₁ = events₂ → (s₁.exchanges j₁ events₁).map (·.response) =
        (s₂.exchanges j₂ events₂).map (·.response)) := by
  induction hevents generalizing s₁ s₂ j₁ j₂ with
  | nil => exact ⟨rfl, fun _ ↦ rfl⟩
  | cons hevent _ ih =>
    cases hevent with
    | clock now =>
      rw [exchanges, exchanges]
      have hnow : ({ j₁ with now } : Journal).Alike { j₂ with now } := ⟨rfl, hj.metrics_eq⟩
      obtain ⟨hunnamed, hsame⟩ := ih h hnow
      exact ⟨hunnamed, fun heq ↦ hsame (List.cons.inj heq).2⟩
    | request fresh₁ fresh₂ q =>
      obtain ⟨⟨htwins, hunnamed, hsame⟩, hjournals⟩ := serve_alike h fresh₁ fresh₂ q j₁ j₂ hj
      obtain ⟨hunnamed', hsame'⟩ := ih htwins hjournals
      rw [exchanges, exchanges]
      refine ⟨?_, fun heq ↦ ?_⟩
      · exact congrArg₂ List.cons hunnamed hunnamed'
      · obtain ⟨hhead, htail⟩ := List.cons.inj heq
        have hfresh : fresh₁ = fresh₂ := by injection hhead
        exact congrArg₂ List.cons (hsame hfresh) (hsame' htail)

/-- The answers of a service that has just been set up, and that refuses every message for a
reason. -/
def answersRefusing (environment : Settings.Variables) (settings : Settings) (files : Files.Tree)
    (renderer : Template.Renderer) (reason : String) (journal : Journal) (events : List Event) :
    Option (List Response) :=
  (new? settings (Settings.isProduction environment) files renderer (.failing reason)).map
    fun s ↦ (s.exchanges journal events).map (·.response)

/-- Outside production the reason is told. -/
example : answersRefusing [] noteService.settings noteService.files
      noteService.renderer "relay down" {} noteEvents ≠
    answersRefusing [] noteService.settings noteService.files
      noteService.renderer "mailbox full" {} noteEvents := by
  decide +kernel

end Service

end Mailroom
