import Mailroom.Proofs.Service.Accounting
import Mailroom.Proofs.Template.Upholding

/-!
# What is upheld while requests are served

A property of the counters that no step breaks in which a request is fulfilled holds behind every
run. What a step has to be asked for is known beforehand: a template is counted only after a source
has been found for its key, and a page is shown only for a submission that has been read from the
body of a request, with a library whose templates come from the files. `Rules` lists what is left to
be shown of a property, and `Upheld` is the invariant of the runs.
-/

namespace Mailroom

open Journal (Gives Leaves answerAt)

namespace Mail.Transport

/-- Handing a message over counts nothing. -/
theorem send_leaves {m : Metrics} (t : Transport) (fresh : Fresh) (message : Outgoing) :
    Leaves m (t.send fresh message) fun _ m' ↦ m' = m := by
  cases t with
  | memory box =>
    refine Leaves.bind (P := fun _ m' ↦ m' = m) ?_ fun _ _ heq ↦ .pure heq
    unfold Outbox.send
    cases box.refusal with
    | some reason => exact .pure rfl
    | none => exact Leaves.log.bind fun _ _ heq ↦ .pure heq
  | remote courier relay =>
    refine Leaves.bind (P := fun _ m' ↦ m' = m) ?_ fun _ _ heq ↦ .pure heq
    refine Leaves.clock.bind ?_
    rintro time _ rfl
    dsimp only
    split
    · exact .pure rfl
    · rename_i sent _
      rcases (courier.handOver sent).run { relay } with ⟨trouble | ⟨⟩, conversation⟩
      · exact .pure rfl
      · exact Leaves.log.bind fun _ _ heq ↦ .pure heq

end Mail.Transport

namespace Service

open Http (Request Response)

variable {α : Type} {s₀ s : Service} {m : Metrics} {admits : Submission → Prop}
  {K : Template.Library → Prop} {J : Metrics → Prop}

/-! ## Rules -/

/-- There is a source for a template. -/
def Offers (s : Service) (key : String) : Prop := s.renderer.library.has s.files key = true

instance (s : Service) (key : String) : Decidable (s.Offers key) :=
  inferInstanceAs (Decidable (_ = true))

/-- A property of the counters that stays whatever is counted, as long as templates are counted only
under keys for which a service has sources. -/
structure Counting (s₀ : Service) (J : Metrics → Prop) : Prop where
  requestAllowed : ∀ m : Metrics, J m → J m.requestAllowed
  requestDenied : ∀ m : Metrics, J m → J m.requestDenied
  cached : ∀ (m : Metrics) (n : ℕ), J m → J { m with cached := n }
  compiled : ∀ (m : Metrics) (n : ℕ), J m → J (m.compiled n)
  renderSucceeded : ∀ (m : Metrics) (key : String), s₀.Offers key → J m → J (m.renderSucceeded key)
  renderFailed : ∀ (m : Metrics) (key : String), s₀.Offers key → J m → J (m.renderFailed key)
  delivered : ∀ (m : Metrics) (key : String), s₀.Offers key → J m → J (m.delivered key)
  deliveryFailed : ∀ (m : Metrics) (key : String), s₀.Offers key → J m → J (m.deliveryFailed key)

/-- What is to be shown of a property of the counters, and of one of the library, so that they hold
while a service answers requests that has begun as `s₀`, if it takes certain submissions only. -/
structure Rules (s₀ : Service) (admits : Submission → Prop) (K : Template.Library → Prop)
    (J : Metrics → Prop) : Prop extends Counting s₀ J where
  fetched : ∀ lib key t lib', K lib → lib.fetched s₀.files key = .ok (t, lib') → K lib'
  cleared : ∀ lib, K lib → K (lib.cleared s₀.files).1
  shown : ∀ (r : Template.Renderer) (key : String) (t : Template.Compiled)
    (library : Template.Library) (submission : Submission) (now : ℤ),
    r.store = s₀.renderer.store → K r.library → r.library.fetched s₀.files key = .ok (t, library) →
    admits submission → Journal.Upholds J ({ r with library }.page t
      (answerAt now (r.context submission.locale submission.payload))) fun _ ↦ True

/-- Whatever a service takes from a request is of a certain kind. -/
def TakesOnly (s : Service) (admits : Submission → Prop) (r : Request) : Prop :=
  ∀ submission, submissionOf s.settings.server.bodyLimit r = .ok submission → admits submission

instance (s : Service) (admits : Submission → Prop) [DecidablePred admits] (r : Request) :
    Decidable (s.TakesOnly admits r) :=
  inferInstanceAs (Decidable (∀ submission, _ = Except.ok submission → admits submission))

/-- A service has kept what it had when it began as `s₀`, and two properties hold of its library and
of the counters. -/
structure Upheld (s₀ : Service) (K : Template.Library → Prop) (J : Metrics → Prop) (s : Service)
    (m : Metrics) : Prop where
  settings_eq : s.settings = s₀.settings
  files_eq : s.files = s₀.files
  store_eq : s.renderer.store = s₀.renderer.store
  dir_eq : s.renderer.library.dir = s₀.renderer.library.dir
  library : K s.renderer.library
  metrics : J m

namespace Upheld

theorem offers_iff (h : Upheld s₀ K J s m) {key : String} : s.Offers key ↔ s₀.Offers key := by
  unfold Offers Template.Library.has Template.Library.pathOf
  rw [h.files_eq, h.dir_eq]

/-- The counters change, and the property stays. -/
theorem counted (h : Upheld s₀ K J s m) {m' : Metrics} (hm : J m') : Upheld s₀ K J s m' :=
  { h with metrics := hm }

theorem withLibrary (h : Upheld s₀ K J s m) {library : Template.Library}
    (hdir : library.dir = s.renderer.library.dir) (hlibrary : K library) :
    Upheld s₀ K J { s with renderer := { s.renderer with library } } m :=
  { h with dir_eq := hdir.trans h.dir_eq, library := hlibrary }

end Upheld

/-! ## Templates -/

section

variable (hrules : Rules s₀ admits K J) (h : Upheld s₀ K J s m)

include hrules h

/-- Rendering a message keeps both properties. -/
theorem Rules.render {key : String} (hkey : s₀.Offers key) {submission : Submission}
    (hadmitted : admits submission) :
    Leaves m (s.renderer.render s.files key submission.locale submission.payload)
      fun o m' ↦ Upheld s₀ K J { s with renderer := o.1 } m' := by
  intro j hj
  have hmetrics : J _ := Template.Renderer.render_upholds hrules.compiled
    (fun m hm ↦ hrules.renderSucceeded m key hkey hm)
    (fun m hm ↦ hrules.renderFailed m key hkey hm)
    (fun t library now hfetched ↦ hrules.shown s.renderer key t library submission now h.store_eq
      h.library (h.files_eq ▸ hfetched) hadmitted) h.metrics j hj
  obtain ⟨hrendered, -⟩ := s.renderer.render_gives s.files key submission.locale
    submission.payload j.now j rfl
  rw [hrendered, Template.Renderer.rendered]
  split
  · exact h.counted hmetrics
  · rename_i t library hfetched
    exact (h.withLibrary (Template.Library.fetched_dir hfetched)
      (hrules.fetched _ key t library h.library (h.files_eq ▸ hfetched))).counted hmetrics

/-- Clearing the library keeps both properties. -/
theorem Rules.clear :
    Leaves m (s.renderer.library.clear s.files) fun o m' ↦
      Upheld s₀ K J { s with renderer := { s.renderer with library := o.1 } } m' := by
  intro j hj
  have hmetrics : J _ := s.renderer.library.clear_upholds s.files
    (fun m hm ↦ hrules.cached m 0 hm) h.metrics j hj
  have hgives : Gives j.now (s.renderer.library.clear s.files)
    (· = s.renderer.library.cleared s.files) := Template.Library.clear_gives
  rw [(hgives j rfl).1]
  refine (h.withLibrary Template.Library.cleared_dir ?_).counted hmetrics
  rw [h.files_eq]
  exact hrules.cleared _ h.library

/-! ## The steps of sending -/

theorem Rules.page {key : String} (hkey : s₀.Offers key) {submission : Submission}
    (hadmitted : admits submission) :
    Leaves m ((page key submission.locale submission.payload).run s)
      fun o m' ↦ Upheld s₀ K J o.2 m' := by
  refine Serving.leaves_get (Serving.leaves_lift (hrules.render h hkey hadmitted) ?_)
  rintro ⟨renderer, outcome⟩ m' h
  refine Serving.leaves_set ?_
  cases outcome with
  | ok html => exact .pure h
  | error e => exact .pure h

theorem Rules.dispatch {key : String} (hkey : s₀.Offers key) (fresh : Mail.Fresh) (locale : String)
    (message : Mail.Outgoing) :
    Leaves m ((dispatch fresh key locale message).run s) fun o m' ↦ Upheld s₀ K J o.2 m' := by
  refine Serving.leaves_get (Serving.leaves_lift (s.transport.send_leaves fresh message) ?_)
  rintro ⟨transport, outcome⟩ m rfl
  have h : Upheld s₀ K J { s with transport } m := { h with }
  refine Serving.leaves_set ?_
  cases outcome with
  | ok id =>
    refine Serving.leaves_lift .count ?_
    rintro _ _ rfl
    exact .pure (h.counted (hrules.delivered m key hkey h.metrics))
  | error fault =>
    refine Serving.leaves_lift .count ?_
    rintro _ _ rfl
    refine Serving.leaves_lift .log ?_
    rintro _ _ rfl
    exact .pure (h.counted (hrules.deliveryFailed m key hkey h.metrics))

theorem Rules.clearTemplates :
    Leaves m (clearTemplates.run s) fun o m' ↦ Upheld s₀ K J o.2 m' := by
  refine Serving.leaves_get (Serving.leaves_lift (hrules.clear h) ?_)
  rintro ⟨library, outcome⟩ m' h
  refine Serving.leaves_set ?_
  cases outcome with
  | ok n => exact .pure h
  | error e => exact .pure h

omit hrules in
theorem Upheld.submitted (r : Request) :
    Leaves m ((submitted r).run s) fun o m' ↦ Upheld s₀ K J o.2 m' ∧
      ∀ submission, o.1 = .ok submission →
        submissionOf s₀.settings.server.bodyLimit r = .ok submission := by
  refine Serving.leaves_get ?_
  rw [← h.settings_eq]
  cases hsubmission : submissionOf s.settings.server.bodyLimit r with
  | ok submission => exact .pure ⟨h, by rintro _ ⟨⟩; rfl⟩
  | error problems => exact .pure ⟨h, nofun⟩

/-- Sending on request keeps both properties. -/
theorem Rules.sendFor {r : Request} (hr : s₀.TakesOnly admits r) (fresh : Mail.Fresh)
    (key : String) : Leaves m ((sendFor fresh key r).run s) fun o m' ↦ Upheld s₀ K J o.2 m' := by
  refine Serving.leaves_bind (h.submitted r) ?_ fun _ _ _ ho ↦ ho.1
  rintro submission s m ⟨h, hsubmission⟩
  have hadmitted : admits submission := hr submission (hsubmission submission rfl)
  refine Serving.leaves_get ?_
  cases hkey : s.renderer.library.has s.files key with
  | false => exact .pure h
  | true =>
    have hoffered : s₀.Offers key := h.offers_iff.mp hkey
    refine Serving.leaves_bind (hrules.page h hoffered hadmitted) ?_ fun _ _ _ h ↦ h
    intro html s m h
    refine Serving.leaves_bind (hrules.dispatch h hoffered fresh submission.locale _) ?_
      fun _ _ _ h ↦ h
    intro id s m h
    refine Serving.leaves_get (Serving.leaves_lift .log ?_)
    rintro _ _ rfl
    exact .pure h

/-! ## Answers -/

omit hrules in
/-- A failure is answered, and nothing is counted. -/
theorem Upheld.failed (production : Bool) (e : Failure) :
    Leaves m (do return (s, ← e.answer production)) fun o m' ↦ Upheld s₀ K J o.1 m' := by
  refine (answer_leaves production e).bind ?_
  rintro response _ ⟨rfl, -⟩
  exact .pure h

theorem Rules.answerEmail {r : Request} (hr : s₀.TakesOnly admits r) (fresh : Fresh)
    (segment : String) :
    Leaves m (s.answerEmail fresh segment r) fun o m' ↦ Upheld s₀ K J o.1 m' := by
  unfold Service.answerEmail
  cases Http.segmentText? segment with
  | none => exact .pure h
  | some key =>
    refine (hrules.sendFor h hr fresh.message key).within.bind ?_
    rintro ⟨o, s'⟩ m' h
    cases o with
    | ok id => exact .pure h
    | error e => exact Upheld.failed h s'.production e

theorem Rules.answerTemplates :
    Leaves m (s.answered (clearedResponse <$> Service.clearTemplates))
      fun o m' ↦ Upheld s₀ K J o.1 m' := by
  have hcleared : Leaves m ((clearedResponse <$> Service.clearTemplates).run s)
      fun o m' ↦ Upheld s₀ K J o.2 m' := by
    rw [map_eq_pure_bind]
    exact Serving.leaves_bind (hrules.clearTemplates h) (fun _ _ _ h ↦ .pure h) fun _ _ _ h ↦ h
  refine hcleared.bind ?_
  rintro ⟨o, s'⟩ m' h
  cases o with
  | ok response => exact .pure h
  | error e => exact Upheld.failed h s'.production e

theorem Rules.showMetrics :
    Leaves m s.metrics fun _ m' ↦ Upheld s₀ K J s m' := by
  refine Leaves.count.bind ?_
  rintro _ _ rfl
  exact fun j hj ↦ hj ▸ h.counted (hrules.cached m _ h.metrics)

theorem Rules.answerRoute {r : Request} (hr : s₀.TakesOnly admits r) (fresh : Fresh)
    (route : Route) :
    Leaves m (s.answerRoute fresh route r) fun o m' ↦ Upheld s₀ K J o.1 m' := by
  unfold Service.answerRoute
  split
  · exact .pure h
  · cases route with
    | email segment => exact hrules.answerEmail h hr fresh segment
    | templates => exact hrules.answerTemplates h
    | health =>
      refine Leaves.clock.bind ?_
      rintro _ _ rfl
      exact .pure h
    | metrics => exact (hrules.showMetrics h).bind fun _ _ h ↦ .pure h
    | nowhere => exact .pure h

theorem Rules.answerKeyed {r : Request} (hr : s₀.TakesOnly admits r) (fresh : Fresh)
    (route : Route) :
    Leaves m (s.answerKeyed fresh route r) fun o m' ↦ Upheld s₀ K J o.1 m' := by
  unfold Service.answerKeyed
  cases refusal? s.settings.api.key r with
  | none => exact hrules.answerRoute h hr fresh route
  | some refusal =>
    refine Leaves.log.bind ?_
    rintro _ _ rfl
    exact Upheld.failed h s.production _

theorem Rules.answerLimited {r : Request} (hr : s₀.TakesOnly admits r) (fresh : Fresh)
    (route : Route) :
    Leaves m (s.answerLimited fresh route r) fun o m' ↦ Upheld s₀ K J o.1 m' := by
  unfold Service.answerLimited
  split
  · exact hrules.answerKeyed h hr fresh route
  · have hchecked : Leaves m (s.limiter.check (clientOf r)) fun _ m' ↦ m' = m := by
      refine Leaves.clock.bind ?_
      rintro now _ rfl
      exact .pure rfl
    refine hchecked.bind ?_
    rintro ⟨limiter, verdict⟩ m rfl
    have h : Upheld s₀ K J { s with limiter } m := { h with }
    cases verdict with
    | allowed remaining limit resetAt =>
      refine Leaves.count.bind ?_
      rintro _ _ rfl
      exact (hrules.answerKeyed (h.counted (hrules.requestAllowed m h.metrics)) hr fresh route).bind
        fun _ _ h ↦ .pure h
    | denied retryAfter limit resetAt =>
      refine Leaves.count.bind ?_
      rintro _ _ rfl
      refine Leaves.log.bind ?_
      rintro _ _ rfl
      refine (answer_leaves _ _).bind ?_
      rintro response _ ⟨rfl, -⟩
      exact .pure (h.counted (hrules.requestDenied m h.metrics))

theorem Rules.answerTraced {r : Request} (hr : s₀.TakesOnly admits r) (fresh : Fresh) (id : String)
    (route : Route) :
    Leaves m (s.answerTraced fresh id route r) fun o m' ↦ Upheld s₀ K J o.1 m' := by
  have hbounded : Leaves m (s.answerBounded fresh route r) fun o m' ↦ Upheld s₀ K J o.1 m' := by
    unfold answerBounded
    split
    · exact .pure h
    · split
      · exact hrules.answerLimited h hr fresh route
      · exact hrules.answerRoute h hr fresh route
  refine Leaves.within (Leaves.log.bind ?_)
  rintro _ _ rfl
  refine hbounded.bind ?_
  rintro ⟨s', response⟩ m' h
  refine (report_leaves response.status).bind ?_
  rintro _ _ rfl
  exact .pure h

/-- Serving a request keeps both properties. -/
theorem Rules.serve {r : Request} (hr : s₀.TakesOnly admits r) (fresh : Fresh) :
    Leaves m (s.serve fresh r) fun o m' ↦ Upheld s₀ K J o.1 m' := by
  unfold Service.serve
  dsimp only
  split
  · exact .pure h
  · exact (hrules.answerTraced h hr fresh _ _).bind fun _ _ h ↦ .pure h

end

/-! ## Runs -/

/-- Both properties hold behind every run in which the service takes submissions of the kind
only. -/
theorem Rules.behind (hrules : Rules s₀ admits K J) {events : List Event}
    (hevents : ∀ fresh r, .request fresh r ∈ events → s₀.TakesOnly admits r) {journal : Journal}
    (h : Upheld s₀ K J s journal.metrics) :
    Upheld s₀ K J (s.behind journal events).1 (s.behind journal events).2.metrics := by
  induction events generalizing s journal with
  | nil => exact h
  | cons event events ih =>
    have hrest : ∀ fresh r, .request fresh r ∈ events → s₀.TakesOnly admits r :=
      fun fresh r hr ↦ hevents fresh r (List.mem_cons_of_mem _ hr)
    cases event with
    | clock now => exact ih hrest h
    | request fresh r =>
      exact ih hrest (hrules.serve h (hevents fresh r List.mem_cons_self) fresh journal rfl)

end Service

end Mailroom
