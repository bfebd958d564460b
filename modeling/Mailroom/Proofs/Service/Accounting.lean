import Mailroom.Proofs.Rate.Outlook
import Mailroom.Proofs.Service.Delivery
import Mailroom.Proofs.Template.Counting

/-!
# The counters tell what happened

A service that hands messages to memory counts while it serves requests: what was rendered, what was
handed over or not taken, what was compiled, and how many requests were let through and turned away
by the rate limiter. The counters balance (`Balanced`) whenever no request is being served. While a
request is served, a page that has been rendered waits to be handed over; so the balance is stated
for the templates whose pages are waiting.
-/

namespace Mailroom

open Journal (Leaves)

variable {α β : Type} {m m' : Metrics}

namespace Serving

variable {act : Serving α} {f : α → Serving β} {s : Service} {P : End α → Metrics → Prop}
  {Q : End β → Metrics → Prop}

theorem leaves_bind (h : Leaves m (act.run s) P)
    (hok : ∀ a s' m', P (.ok a, s') m' → Leaves m' ((f a).run s') Q)
    (herror : ∀ e s' m', P (.error e, s') m' → Q (.error e, s') m') :
    Leaves m ((act >>= f).run s) Q := by
  change Leaves m (act.run s >>= fun (o, s') ↦ ExceptT.bindCont f o s') Q
  refine h.bind ?_
  rintro ⟨o, s'⟩ m' ho
  cases o with
  | ok a => exact hok a s' m' ho
  | error e => exact .pure (herror e s' m' ho)

theorem leaves_get {f : Service → Serving β} (h : Leaves m ((f s).run s) Q) :
    Leaves m ((get >>= f).run s) Q := h

theorem leaves_set {s' : Service} {f : Unit → Serving β} (h : Leaves m ((f ()).run s') Q) :
    Leaves m (((set s' : Serving Unit) >>= f).run s) Q := h

/-- An operation that may log and count, and does not touch the service. -/
theorem leaves_lift {op : Journaled α} {R : α → Metrics → Prop} (h : Leaves m op R)
    (hf : ∀ a m', R a m' → Leaves m' ((f a).run s) Q) :
    Leaves m (((liftM op : Serving α) >>= f).run s) Q := fun j hj ↦ hf _ _ (h j hj) _ rfl

end Serving

namespace Service

open Http (Request Response)

variable {s s' : Service} {r : Request} {route : Route} {rate : RateSettings} {allowed denied : Nat}
  {key : String} {waiting : List String}

/-! ## The balance -/

/-- Counts of messages that were handed over, for any template. -/
def isSent (values : List String) : Bool := values.getLast? = some "sent"

/-- The counters of a service that hands messages to memory, while the pages of some templates wait
to be handed over. -/
structure Balanced (rate : RateSettings) (allowed denied : Nat) (waiting : List String)
    (s : Service) (m : Metrics) : Prop where
  rate_eq : s.limiter.settings = rate
  allowed_eq : m.allowed = allowed
  denied_eq : m.denied = denied
  memory : ∃ box, s.transport = .memory box
  sent_eq : m.sent.totalOf isSent = s.taken.length
  rendered_eq : ∀ key, m.renders.totalOf (· = [key, "success"]) =
    m.sent.totalOf (· = [key, "sent"]) + m.sent.totalOf (· = [key, "failed"]) + waiting.count key
  compiled_eq : m.compilations = s.renderer.library.compilations

namespace Balanced

/-- Rendering leaves the balance as it is, apart from the outcome. -/
theorem counted {renderer : Template.Renderer} (h : Balanced rate allowed denied waiting s m)
    (hm : Template.Library.Counted s.renderer.library renderer.library m m') :
    Balanced rate allowed denied waiting { s with renderer } m' := by
  obtain ⟨hrenders, hsent, hallowed, hdenied⟩ : m'.renders = m.renders ∧ m'.sent = m.sent ∧
      m'.allowed = m.allowed ∧ m'.denied = m.denied := by
    have hbooks := hm.books_eq
    rwa [Metrics.books, Metrics.books, Prod.mk.injEq, Prod.mk.injEq, Prod.mk.injEq] at hbooks
  refine ⟨h.rate_eq, hallowed.trans h.allowed_eq, hdenied.trans h.denied_eq, h.memory, ?_, ?_, ?_⟩
  · rw [hsent]
    exact h.sent_eq
  · rw [hsent, hrenders]
    exact h.rendered_eq
  · have hcompilations := hm.compilations_eq
    have hbefore := h.compiled_eq
    dsimp only
    omega

/-- A page that has been rendered waits. -/
theorem renderSucceeded (h : Balanced rate allowed denied waiting s m) (key : String) :
    Balanced rate allowed denied (key :: waiting) s (m.renderSucceeded key) where
  rate_eq := h.rate_eq
  allowed_eq := h.allowed_eq
  denied_eq := h.denied_eq
  memory := h.memory
  sent_eq := h.sent_eq
  rendered_eq := by
    intro other
    have hbefore := h.rendered_eq other
    rw [Metrics.renderSucceeded, Tally.totalOf_increment, List.count_cons, hbefore]
    simp only [List.cons.injEq, and_true, decide_eq_true_eq, beq_iff_eq]
    omega
  compiled_eq := h.compiled_eq

theorem renderFailed (h : Balanced rate allowed denied waiting s m) (key : String) :
    Balanced rate allowed denied waiting s (m.renderFailed key) where
  rate_eq := h.rate_eq
  allowed_eq := h.allowed_eq
  denied_eq := h.denied_eq
  memory := h.memory
  sent_eq := h.sent_eq
  rendered_eq := by
    intro other
    rw [Metrics.renderFailed, Tally.totalOf_increment, ← h.rendered_eq other]
    simp
  compiled_eq := h.compiled_eq

/-- A page that waited is handed over. -/
theorem delivered {box : Mail.Outbox} (h : Balanced rate allowed denied (key :: waiting) s m)
    (hbox : s.transport = .memory box) (d : Mail.Delivered) :
    Balanced rate allowed denied waiting
      { s with transport := .memory { box with delivered := box.delivered ++ [d] } }
      (m.delivered key) where
  rate_eq := h.rate_eq
  allowed_eq := h.allowed_eq
  denied_eq := h.denied_eq
  memory := ⟨_, rfl⟩
  sent_eq := by
    have hbefore := h.sent_eq
    rw [taken, hbox] at hbefore
    have hsent : isSent [key, "sent"] = true := by simp [isSent]
    rw [Metrics.delivered, Tally.totalOf_increment, hbefore, if_pos hsent]
    change box.delivered.length + 1 = (box.delivered ++ [d]).length
    rw [List.length_append]
    rfl
  rendered_eq := by
    intro other
    have hbefore := h.rendered_eq other
    rw [List.count_cons] at hbefore
    rw [Metrics.delivered, Tally.totalOf_increment, Tally.totalOf_increment, hbefore]
    simp
    omega
  compiled_eq := h.compiled_eq

/-- A page that waited is not taken. -/
theorem deliveryFailed (h : Balanced rate allowed denied (key :: waiting) s m) :
    Balanced rate allowed denied waiting s (m.deliveryFailed key) where
  rate_eq := h.rate_eq
  allowed_eq := h.allowed_eq
  denied_eq := h.denied_eq
  memory := h.memory
  sent_eq := by
    rw [Metrics.deliveryFailed, Tally.totalOf_increment, h.sent_eq]
    rfl
  rendered_eq := by
    intro other
    have hbefore := h.rendered_eq other
    rw [List.count_cons] at hbefore
    rw [Metrics.deliveryFailed, Tally.totalOf_increment, Tally.totalOf_increment, hbefore]
    simp
    omega
  compiled_eq := h.compiled_eq

end Balanced

/-! ## The steps of sending -/

/-- What a step leaves behind: the counters balance, and if the step fails it is not because of the
rate limit. -/
structure Fair (rate : RateSettings) (allowed denied : Nat) (waiting : List String)
    (o : Serving.End α) (m : Metrics) : Prop where
  balanced : Balanced rate allowed denied waiting o.2 m
  kind_ne : ∀ e, o.1 = .error e → e.kind ≠ .rateLimited

/-- A failure is handed on. -/
theorem Fair.ofError {e : Failure} (h : Fair (α := α) rate allowed denied waiting (.error e, s) m) :
    Fair (α := β) rate allowed denied waiting (.error e, s) m where
  balanced := h.balanced
  kind_ne := fun _ he ↦ h.kind_ne _ (Except.error.inj he ▸ rfl)

theorem submitted_leaves (h : Balanced rate allowed denied waiting s m) (r : Request) :
    Leaves m ((submitted r).run s) (Fair rate allowed denied waiting) := by
  refine Serving.leaves_get ?_
  cases submissionOf s.settings.server.bodyLimit r with
  | ok submission => exact .pure ⟨h, nofun⟩
  | error problems => exact .pure ⟨h, by rintro _ ⟨⟩; exact nofun⟩

theorem page_leaves (h : Balanced rate allowed denied waiting s m) (key locale : String)
    (payload : Json.Members) :
    Leaves m ((page key locale payload).run s) fun o m' ↦
      Fair rate allowed denied (if o.1.toOption.isSome then key :: waiting else waiting) o m' := by
  refine Serving.leaves_get ?_
  refine Serving.leaves_lift (s.renderer.render_leaves s.files key locale payload) ?_
  rintro ⟨renderer, outcome⟩ _ ⟨m₁, hm, rfl⟩
  have hcounted := h.counted hm
  refine Serving.leaves_set ?_
  cases outcome with
  | ok html => exact .pure ⟨hcounted.renderSucceeded key, nofun⟩
  | error e =>
    refine .pure ⟨hcounted.renderFailed key, ?_⟩
    rintro _ ⟨⟩
    exact (Failure.template_isLate e).2

theorem dispatch_leaves (h : Balanced rate allowed denied (key :: waiting) s m)
    (fresh : Mail.Fresh) (locale : String) (message : Mail.Outgoing) :
    Leaves m ((dispatch fresh key locale message).run s) (Fair rate allowed denied waiting) := by
  obtain ⟨box, hbox⟩ := h.memory
  have hsent : Leaves m (s.transport.send fresh message) fun o m' ↦ m' = m ∧
      ((∃ id, o = (.memory { box with delivered := box.delivered ++ [⟨id, message⟩] }, .ok id)) ∨
        ∃ reason, o = (s.transport, .error (.send reason))) := by
    rw [hbox, Mail.Transport.send, Mail.Outbox.send]
    cases box.refusal with
    | some reason => exact .pure ⟨rfl, .inr ⟨reason, rfl⟩⟩
    | none => exact fun _ hj ↦ ⟨hj, .inl ⟨_, rfl⟩⟩
  refine Serving.leaves_get (Serving.leaves_lift hsent ?_)
  rintro _ _ ⟨rfl, ⟨id, rfl⟩ | ⟨reason, rfl⟩⟩
  · refine Serving.leaves_set (Serving.leaves_lift .count ?_)
    rintro _ _ rfl
    exact .pure ⟨h.delivered hbox _, nofun⟩
  · refine Serving.leaves_set (Serving.leaves_lift .count ?_)
    rintro _ _ rfl
    refine Serving.leaves_lift .log ?_
    rintro _ _ rfl
    refine .pure ⟨h.deliveryFailed, ?_⟩
    rintro _ ⟨⟩
    exact nofun

/-- Sending on request keeps the balance. -/
theorem sendFor_leaves (h : Balanced rate allowed denied [] s m) (fresh : Mail.Fresh) (key : String)
    (r : Request) : Leaves m ((sendFor fresh key r).run s) (Fair rate allowed denied []) := by
  refine Serving.leaves_bind (submitted_leaves h r) ?_ fun _ _ _ ho ↦ ho.ofError
  rintro submission s m ⟨h, -⟩
  refine Serving.leaves_get ?_
  cases s.renderer.library.has s.files key with
  | false =>
    refine .pure ⟨h, ?_⟩
    rintro _ ⟨⟩
    exact nofun
  | true =>
    refine Serving.leaves_bind (page_leaves h key submission.locale submission.payload) ?_
      fun _ _ _ ho ↦ ho.ofError
    rintro html s m ⟨h, -⟩
    refine Serving.leaves_bind (dispatch_leaves h fresh submission.locale _) ?_
      fun _ _ _ ho ↦ ho.ofError
    rintro id s m ⟨h, -⟩
    refine Serving.leaves_get (Serving.leaves_lift .log ?_)
    rintro _ _ rfl
    exact .pure ⟨h, nofun⟩

theorem clearTemplates_leaves (h : Balanced rate allowed denied waiting s m) :
    Leaves m (clearTemplates.run s) (Fair rate allowed denied waiting) := by
  refine Serving.leaves_get ?_
  refine Serving.leaves_lift (Template.Library.clear_leaves s.files s.renderer.library) ?_
  rintro ⟨library, outcome⟩ m₁ hm
  have hcounted : Balanced rate allowed denied waiting
      { s with renderer := { s.renderer with library } } m₁ := h.counted hm
  refine Serving.leaves_set ?_
  cases outcome with
  | ok n => exact .pure ⟨hcounted, nofun⟩
  | error e =>
    refine .pure ⟨hcounted, ?_⟩
    rintro _ ⟨⟩
    exact (Failure.template_isLate e).2

/-! ## Answers -/

/-- What a request leaves behind that is not turned away by the rate limiter. -/
structure Passed (rate : RateSettings) (allowed denied : Nat) (o : Service × Response)
    (m : Metrics) : Prop where
  balanced : Balanced rate allowed denied [] o.1 m
  status_ne : o.2.status ≠ 429

theorem answer_leaves (production : Bool) (e : Failure) :
    Leaves m (e.answer production) fun response m' ↦ m' = m ∧ response.status = e.kind.status :=
  fun _ hj ↦ ⟨hj, rfl⟩

theorem status_ne_of_kind_ne {e : Failure} (h : e.kind ≠ .rateLimited) : e.kind.status ≠ 429 := by
  cases hk : e.kind with
  | rateLimited => exact absurd hk h
  | _ => exact nofun

/-- A step that has failed is answered. -/
theorem failed_leaves {e : Failure} (h : Fair (α := α) rate allowed denied [] (.error e, s) m) :
    Leaves m (do return (s, ← e.answer s.production)) (Passed rate allowed denied) := by
  refine (answer_leaves s.production e).bind ?_
  rintro response _ ⟨rfl, hresponse⟩
  refine .pure ⟨h.balanced, ?_⟩
  rw [hresponse]
  exact status_ne_of_kind_ne (h.kind_ne e rfl)

theorem answerEmail_leaves (h : Balanced rate allowed denied [] s m) (fresh : Fresh)
    (segment : String) (r : Request) :
    Leaves m (s.answerEmail fresh segment r) (Passed rate allowed denied) := by
  unfold answerEmail
  cases Http.segmentText? segment with
  | none => exact .pure ⟨h, nofun⟩
  | some key =>
    refine (sendFor_leaves h fresh.message key r).within.bind ?_
    rintro ⟨o, s'⟩ m' ho
    cases o with
    | ok id => exact .pure ⟨ho.balanced, nofun⟩
    | error e => exact failed_leaves ho

theorem answerTemplates_leaves (h : Balanced rate allowed denied [] s m) :
    Leaves m (s.answered (clearedResponse <$> clearTemplates)) (Passed rate allowed denied) := by
  have hcleared : Leaves m ((clearedResponse <$> clearTemplates).run s) fun o m' ↦
      Fair rate allowed denied [] o m' ∧
        ∀ response, o.1 = .ok response → response.status ≠ 429 := by
    rw [map_eq_pure_bind]
    refine Serving.leaves_bind (clearTemplates_leaves h) ?_ fun _ _ _ ho ↦ ⟨ho.ofError, nofun⟩
    rintro n s' m' ho
    refine .pure ⟨⟨ho.balanced, nofun⟩, ?_⟩
    rintro _ ⟨⟩
    exact nofun
  refine hcleared.bind ?_
  rintro ⟨o, s'⟩ m' ⟨ho, hstatus⟩
  cases o with
  | ok response => exact .pure ⟨ho.balanced, hstatus response rfl⟩
  | error e => exact failed_leaves ho

theorem metrics_leaves (h : Balanced rate allowed denied [] s m) :
    Leaves m s.metrics fun response m' ↦
      Balanced rate allowed denied [] s m' ∧ response.status = 200 := by
  refine Leaves.count.bind ?_
  rintro _ _ rfl
  exact fun j hj ↦ ⟨hj ▸ ⟨h.rate_eq, h.allowed_eq, h.denied_eq, h.memory, h.sent_eq, h.rendered_eq,
    h.compiled_eq⟩, rfl⟩

theorem answerRoute_leaves (h : Balanced rate allowed denied [] s m) (fresh : Fresh)
    (route : Route) (r : Request) :
    Leaves m (s.answerRoute fresh route r) (Passed rate allowed denied) := by
  unfold answerRoute
  split
  · refine .pure ⟨h, ?_⟩
    dsimp only
    split
    · exact nofun
    · exact nofun
  · cases route with
    | email segment => exact answerEmail_leaves h fresh segment r
    | templates => exact answerTemplates_leaves h
    | health =>
      refine Leaves.clock.bind ?_
      rintro _ _ rfl
      exact .pure ⟨h, nofun⟩
    | metrics =>
      refine (metrics_leaves h).bind ?_
      rintro response m' ⟨hm, hstatus⟩
      exact .pure ⟨hm, by rw [hstatus]; exact nofun⟩
    | nowhere => exact .pure ⟨h, nofun⟩

theorem answerKeyed_leaves (h : Balanced rate allowed denied [] s m) (fresh : Fresh)
    (route : Route) (r : Request) :
    Leaves m (s.answerKeyed fresh route r) (Passed rate allowed denied) := by
  unfold answerKeyed
  cases refusal? s.settings.api.key r with
  | none => exact answerRoute_leaves h fresh route r
  | some refusal =>
    refine Leaves.log.bind ?_
    rintro _ _ rfl
    refine (answer_leaves s.production _).bind ?_
    rintro response _ ⟨rfl, hresponse⟩
    exact .pure ⟨h, by rw [hresponse]; exact nofun⟩

/-! ## The rate limit -/

/-- What a request leaves behind. If requests are limited, those that come as far as the rate limit
are counted there, and the answer shows which of them have been turned away. -/
structure Counted (reached : Bool) (rate : RateSettings) (allowed denied : Nat)
    (o : Service × Response) (m : Metrics) : Prop where
  balanced : Balanced rate m.allowed m.denied [] o.1 m
  unlimited : rate.enabled = false → m.allowed = allowed ∧ m.denied = denied
  limited : rate.enabled = true →
    m.denied = denied + (if o.2.status = 429 then 1 else 0) ∧
      m.allowed + m.denied = allowed + denied + if reached then 1 else 0

/-- A request that does not come as far as the rate limit. -/
theorem Passed.counted {o : Service × Response} (h : Passed rate allowed denied o m) :
    Counted false rate allowed denied o m where
  balanced := h.balanced.allowed_eq ▸ h.balanced.denied_eq ▸ h.balanced
  unlimited _ := ⟨h.balanced.allowed_eq, h.balanced.denied_eq⟩
  limited _ := by
    rw [if_neg h.status_ne, h.balanced.allowed_eq, h.balanced.denied_eq]
    exact ⟨rfl, rfl⟩

theorem Counted.withResponse {reached : Bool} {response response' : Response}
    (h : Counted reached rate allowed denied (s, response) m)
    (hstatus : response'.status = response.status) :
    Counted reached rate allowed denied (s, response') m where
  balanced := h.balanced
  unlimited := h.unlimited
  limited := by
    dsimp only
    rw [hstatus]
    exact h.limited

theorem Balanced.requestAllowed (h : Balanced rate allowed denied waiting s m) :
    Balanced rate (allowed + 1) denied waiting s m.requestAllowed :=
  { h with allowed_eq := congrArg (· + 1) h.allowed_eq }

theorem Balanced.requestDenied (h : Balanced rate allowed denied waiting s m) :
    Balanced rate allowed (denied + 1) waiting s m.requestDenied :=
  { h with denied_eq := congrArg (· + 1) h.denied_eq }

theorem answerLimited_leaves (h : Balanced rate allowed denied [] s m) (fresh : Fresh)
    (route : Route) (r : Request) :
    Leaves m (s.answerLimited fresh route r) (Counted true rate allowed denied) := by
  unfold answerLimited
  cases henabled : s.limiter.settings.enabled with
  | false =>
    refine (answerKeyed_leaves h fresh route r).weaken fun o m' ho ↦ ?_
    refine { ho.counted with limited := fun hlimited ↦ ?_ }
    rw [h.rate_eq] at henabled
    rw [henabled] at hlimited
    cases hlimited
  | true =>
    have hchecked : Leaves m (s.limiter.check (clientOf r)) fun o m' ↦
        m' = m ∧ o.1.settings = rate := by
      refine Leaves.clock.bind ?_
      rintro now _ rfl
      exact .pure ⟨rfl, (s.limiter.settings_performed _ (.check _)).trans h.rate_eq⟩
    refine hchecked.bind ?_
    rintro ⟨limiter, verdict⟩ m ⟨rfl, hrate⟩
    have hbalanced : Balanced rate allowed denied [] { s with limiter } m :=
      { h with rate_eq := hrate }
    rw [h.rate_eq] at henabled
    have hlimited : rate.enabled ≠ false := by simp [henabled]
    cases verdict with
    | allowed remaining limit resetAt =>
      refine Leaves.count.bind ?_
      rintro _ _ rfl
      refine (answerKeyed_leaves hbalanced.requestAllowed fresh route r).bind ?_
      rintro ⟨s', response⟩ m' ho
      obtain ⟨hbooks, -, hcounted⟩ := ho.counted
      have hreached : Counted true rate allowed denied (s', response) m' := by
        refine ⟨hbooks, fun hoff ↦ absurd hoff hlimited, fun hon ↦ ?_⟩
        obtain ⟨hdenied, htotal⟩ := hcounted hon
        refine ⟨hdenied, htotal.trans ?_⟩
        rw [if_neg Bool.false_ne_true, if_pos rfl]
        omega
      exact .pure (hreached.withResponse (withHeaders_status _ response))
    | denied retryAfter limit resetAt =>
      refine Leaves.count.bind ?_
      rintro _ _ rfl
      refine Leaves.log.bind ?_
      rintro _ _ rfl
      refine (answer_leaves _ _).bind ?_
      rintro response _ ⟨rfl, hresponse⟩
      have hbooks := hbalanced.requestDenied
      have hreached : Counted true rate allowed denied ({ s with limiter }, response)
          m.requestDenied := by
        refine ⟨hbooks.allowed_eq ▸ hbooks.denied_eq ▸ hbooks, fun hoff ↦ absurd hoff hlimited,
          fun hon ↦ ?_⟩
        rw [hbooks.allowed_eq, hbooks.denied_eq, hresponse]
        exact ⟨rfl, rfl⟩
      exact .pure (hreached.withResponse (withHeaders_status _ response))

/-! ## The whole way -/

/-- Whether a request comes as far as the rate limit. -/
def reachesLimit (s : Service) (r : Request) : Bool :=
  r.method != "OPTIONS" && !isTooLong s.settings.server.bodyLimit r &&
    (Route.ofPath r.path).isProtected

theorem answerBounded_leaves (h : Balanced rate allowed denied [] s m) (fresh : Fresh)
    (route : Route) (r : Request) :
    Leaves m (s.answerBounded fresh route r)
      (Counted (!isTooLong s.settings.server.bodyLimit r && route.isProtected) rate allowed
        denied) := by
  unfold answerBounded
  cases isTooLong s.settings.server.bodyLimit r with
  | true => exact .pure (Passed.counted ⟨h, nofun⟩)
  | false =>
    cases route.isProtected with
    | true => exact answerLimited_leaves h fresh route r
    | false => exact (answerRoute_leaves h fresh route r).weaken fun _ _ ho ↦ ho.counted

theorem report_leaves (status : Nat) : Leaves m (report status) fun _ m' ↦ m' = m := by
  unfold report
  refine Leaves.log.bind ?_
  rintro _ _ rfl
  split
  · exact Leaves.log
  · exact .pure rfl

theorem answerTraced_leaves (h : Balanced rate allowed denied [] s m) (fresh : Fresh)
    (id : String) (route : Route) (r : Request) :
    Leaves m (s.answerTraced fresh id route r)
      (Counted (!isTooLong s.settings.server.bodyLimit r && route.isProtected) rate allowed
        denied) := by
  refine Leaves.within (Leaves.log.bind ?_)
  rintro _ _ rfl
  refine (answerBounded_leaves h fresh route r).bind ?_
  rintro ⟨s', response⟩ m' ho
  refine (report_leaves response.status).bind ?_
  rintro _ _ rfl
  exact .pure ho

/-- Whatever comes of a request, the counters balance again. -/
theorem serve_leaves (h : Balanced rate allowed denied [] s m) (fresh : Fresh) (r : Request) :
    Leaves m (s.serve fresh r) (Counted (s.reachesLimit r) rate allowed denied) := by
  have hdressed {reached : Bool} {s' : Service} {response : Response} {m' : Metrics}
      (ho : Counted reached rate allowed denied (s', response) m') :
      Counted reached rate allowed denied (s', sentTo r ((response.withHeaders
        ((Route.ofPath r.path).allow r.method)).withHeader "x-request-id" (identify fresh r))) m' :=
    ho.withResponse ((sentTo_status r _).trans (withHeaders_status _ response))
  unfold serve reachesLimit
  dsimp only
  split
  · rename_i hoptions
    have hother : (r.method != "OPTIONS") = false := by rw [hoptions]; rfl
    have hpassed : Passed rate allowed denied (s, s.origins.preflight r) m := ⟨h, nofun⟩
    rw [hother, Bool.false_and, Bool.false_and]
    exact .pure (hdressed hpassed.counted)
  · rename_i hother
    rw [bne_iff_ne.mpr hother, Bool.true_and]
    refine (answerTraced_leaves h fresh _ (Route.ofPath r.path) r).bind ?_
    rintro ⟨s', response⟩ m' ho
    exact .pure (hdressed (ho.withResponse (withHeaders_status _ response)))

/-! ## Runs -/

/-- The service and the journal behind a number of events. -/
def behind (s : Service) (journal : Journal) : List Event → Service × Journal
  | [] => (s, journal)
  | .clock now :: events => s.behind { journal with now } events
  | .request fresh r :: events =>
    let served := (s.serve fresh r).run journal
    served.1.1.behind served.2 events

/-- The counters balance behind every run, and the rate limiter has counted the requests that came
as far as it. -/
theorem behind_counted {journal : Journal} (events : List Event)
    (h : Balanced rate allowed denied [] s journal.metrics) :
    let after := s.behind journal events
    let m := after.2.metrics
    Balanced rate m.allowed m.denied [] after.1 m ∧
      (rate.enabled = false → m.allowed = allowed ∧ m.denied = denied) ∧
      (rate.enabled = true →
        m.denied = denied + (s.exchanges journal events).countP (·.response.status = 429) ∧
          m.allowed + m.denied = allowed + denied +
            (s.exchanges journal events).countP fun x ↦ x.before.reachesLimit x.request) := by
  induction events generalizing s journal allowed denied with
  | nil =>
    obtain ⟨hallowed, hdenied⟩ := And.intro h.allowed_eq h.denied_eq
    subst hallowed hdenied
    exact ⟨h, fun _ ↦ ⟨rfl, rfl⟩, fun _ ↦ ⟨rfl, rfl⟩⟩
  | cons event events ih =>
    cases event with
    | clock now => exact ih h
    | request fresh r =>
      obtain ⟨hbalanced, hoff, hon⟩ := serve_leaves h fresh r journal rfl
      obtain ⟨hend, hoffs, hons⟩ := ih hbalanced
      refine ⟨hend, ?_, ?_⟩
      · intro hdisabled
        obtain ⟨hallowed, hdenied⟩ := hoff hdisabled
        obtain ⟨hallowed', hdenied'⟩ := hoffs hdisabled
        exact ⟨hallowed'.trans hallowed, hdenied'.trans hdenied⟩
      · intro henabled
        obtain ⟨hdenied, htotal⟩ := hon henabled
        obtain ⟨hdenied', htotal'⟩ := hons henabled
        rw [exchanges, List.countP_cons, List.countP_cons]
        simp only [decide_eq_true_eq]
        rw [behind]
        constructor
        · omega
        · omega

/-- The counters of a service that hands messages to memory, which may refuse them all, tell what
happened since they stood at zero. As many messages have been counted as sent as have been taken;
for every template each page that was rendered has been sent or not been taken; every compilation
is counted; and the rate limiter, if there is one, has turned away the requests that are answered
so, and let through the others that came as far as it. -/
theorem metrics_tell {journal : Journal} {refusal : Option String} (events : List Event)
    (hmetrics : journal.metrics = {}) (htransport : s.transport = .memory { refusal })
    (hcompilations : s.renderer.library.compilations = 0) :
    let after := s.behind journal events
    let m := after.2.metrics
    let allowed := m.value "email_ratelimit_allowed_total"
    let denied := m.value "email_ratelimit_denied_total"
    m.sum "email_sent_total" (·.head? = some "sent") = after.1.taken.length ∧
      (∀ key, m.sum "email_renders_total" (· = ["success", key]) =
        m.sum "email_sent_total" (· = ["sent", key]) +
          m.sum "email_sent_total" (· = ["failed", key])) ∧
      m.value "email_template_compilations_total" = after.1.renderer.library.compilations ∧
      (s.limiter.settings.enabled = true →
        denied = (s.exchanges journal events).countP (·.response.status = 429) ∧
          allowed + denied =
            (s.exchanges journal events).countP fun x ↦ x.before.reachesLimit x.request) ∧
      (s.limiter.settings.enabled = false → allowed = 0 ∧ denied = 0) := by
  have hzero : Balanced s.limiter.settings 0 0 [] s journal.metrics := by
    rw [hmetrics]
    refine ⟨rfl, rfl, rfl, ⟨_, htransport⟩, ?_, fun _ ↦ rfl, hcompilations.symm⟩
    rw [taken, htransport]
    rfl
  obtain ⟨hbalanced, hoff, hon⟩ := behind_counted events hzero
  dsimp only
  rw [Metrics.value_allowed, Metrics.value_denied, Metrics.value_compilations]
  refine ⟨?_, ?_, hbalanced.compiled_eq, ?_, hoff⟩
  · rw [Metrics.sum_sent, ← hbalanced.sent_eq]
    simp only [List.head?_reverse]
    rfl
  · intro key
    have hrendered := hbalanced.rendered_eq key
    rw [List.count_nil, Nat.add_zero] at hrendered
    rw [Metrics.sum_renders, Metrics.sum_sent, Metrics.sum_sent]
    simp only [List.reverse_eq_iff]
    exact hrendered
  · intro henabled
    obtain ⟨hdenied, htotal⟩ := hon henabled
    exact ⟨hdenied.trans (Nat.zero_add _), htotal.trans (Nat.zero_add _)⟩

/-- Someone guesses the key, and then someone else knows it and has a message sent. -/
theorem metrics_tell_noteEvents :
    let after := noteService.behind {} noteEvents
    after.1.taken.length = 1 ∧
      after.2.metrics.sum "email_sent_total" (·.head? = some "sent") = after.1.taken.length ∧
      after.2.metrics.value "email_ratelimit_allowed_total" = 2 ∧
      after.2.metrics.value "email_ratelimit_denied_total" =
        (noteService.exchanges {} noteEvents).countP (·.response.status = 429) := by
  obtain ⟨hsent, -, -, hlimited, -⟩ :=
    metrics_tell noteEvents (show ({} : Journal).metrics = {} from rfl)
      (show noteService.transport = .memory { refusal := none } from rfl) rfl
  obtain ⟨hdenied, -⟩ := hlimited rfl
  exact ⟨by decide +kernel, hsent, by decide +kernel, hdenied⟩

end Service

end Mailroom
