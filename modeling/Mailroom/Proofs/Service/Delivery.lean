import Mailroom.Proofs.Service.Sending
import Mailroom.Proofs.Template.Desk
import Mailroom.Service.Router

/-!
# What is sent, and for whom

A service that takes messages into memory serves requests while the clock moves. A message is taken
just when a request to send one is answered as fulfilled; then the request has shown the key of the
service, it was within the rate limit, and the message is the one that its body asks for. A request
that is turned away at the rate limit or at the key leaves the templates as they are.

A request passes through the service from the outside to the inside. What is known about the answer
is shown from the inside to the outside: each check that a request passes is one thing more that is
known about a message that was sent for it.
-/

namespace Mailroom.Service

open Http (Request Response)
open Journal (Gives answerAt)

variable {now : Int} {s : Service} {box : List Mail.Delivered} {r : Request} {route : Route}
  {P : Prop}

/-! ## What may come of a request -/

/-- The request shows the key of the service, which is not empty. -/
def Admitted (s : Service) (r : Request) : Prop :=
  ∃ token, s.settings.api.key = some token ∧ token ≠ "" ∧
    (r.visible? "authorization").bind Http.bearerToken? = some token

/-- The request is within the rate limit, or there is none. -/
def WithinLimit (s : Service) (now : Int) (r : Request) : Prop :=
  s.limiter.settings.enabled = false ∨
    ∃ remaining limit resetAt,
      (s.limiter.checkAt (clientOf r) (Rate.instant now)).2 = .allowed remaining limit resetAt

/-- What may come of a request to a service that has taken some messages. A message that was sent
has passed the checks `P`. -/
inductive Outcome (P : Prop) (s : Service) (now : Int) (route : Route) (r : Request)
    (box : List Mail.Delivered) : Service × Response → Prop where
  /-- A message has been sent. -/
  | sent {segment key : String} {submission : Submission} {d : Mail.Delivered} {s' : Service}
    {response : Response} (checked : P) (route_eq : route = .email segment)
    (key_eq : Http.segmentText? segment = some key) (method_eq : r.method = "POST")
    (status_eq : response.status = 200) (holds : s'.Holds (box ++ [d]))
    (requested : s.Requested now key r submission d.message)
    (body_eq : response.body = (sentResponse d.id).body) :
    Outcome P s now route r box (s', response)
  /-- No message has been sent. -/
  | kept {s' : Service} {response : Response} (holds : s'.Holds box)
    (not_sent : response.status = 200 → r.method = "POST" → ∀ segment, route ≠ .email segment)
    (library_eq : response.status = 401 ∨ response.status = 429 →
      s'.renderer.library = s.renderer.library) : Outcome P s now route r box (s', response)

namespace Outcome

/-- A failure behind the checks of who may pass. -/
theorem ofLate {s' : Service} {e : Failure} {response : Response} (h : s'.Holds box)
    (he : e.IsLate) (hstatus : response.status = e.kind.status) :
    Outcome P s now route r box (s', response) := by
  obtain ⟨hkey, hrate⟩ := he.status_ne
  apply Outcome.kept h
  · intro hok
    exact absurd (hstatus.symm.trans hok) e.kind.status_ne_ok
  · intro hrefused
    rw [hstatus] at hrefused
    rcases hrefused with hrefused | hrefused
    · exact absurd hrefused hkey
    · exact absurd hrefused hrate

/-- A request that is turned away while nothing has been done for it. -/
theorem ofTurnedAway {s' : Service} {e : Failure} {response : Response} (h : s'.Holds box)
    (hlibrary : s'.renderer.library = s.renderer.library)
    (hstatus : response.status = e.kind.status) : Outcome P s now route r box (s', response) := by
  apply Outcome.kept h
  · intro hok
    exact absurd (hstatus.symm.trans hok) e.kind.status_ne_ok
  · intro _
    exact hlibrary

/-- One check more. -/
theorem check {Q : Prop} {o : Service × Response} (h : Outcome P s now route r box o)
    (hPQ : P → Q) : Outcome Q s now route r box o := by
  cases h with
  | sent checked route_eq key_eq method_eq status_eq holds requested body_eq =>
    exact .sent (hPQ checked) route_eq key_eq method_eq status_eq holds requested body_eq
  | kept holds not_sent library_eq => exact .kept holds not_sent library_eq

/-- What has been counted for the rate limit does not count for a message. -/
theorem ofLimiter {limiter : Rate.Limiter} {o : Service × Response}
    (h : Outcome P { s with limiter } now route r box o) : Outcome P s now route r box o := by
  cases h with
  | sent checked route_eq key_eq method_eq status_eq holds requested body_eq =>
    obtain ⟨hdecoded, hvalid, hto, hcc, hbcc, hreply, hsubject, hhtml⟩ := requested
    exact .sent checked route_eq key_eq method_eq status_eq holds
      ⟨hdecoded, hvalid, hto, hcc, hbcc, hreply, hsubject, hhtml⟩ body_eq
  | kept holds not_sent library_eq => exact .kept holds not_sent library_eq

/-- Headers do not count. -/
theorem headers {s' : Service} {response response' : Response}
    (h : Outcome P s now route r box (s', response)) (hstatus : response'.status = response.status)
    (hbody : r.method = "POST" → response'.body = response.body) :
    Outcome P s now route r box (s', response') := by
  cases h with
  | sent checked route_eq key_eq method_eq status_eq holds requested body_eq =>
    exact .sent checked route_eq key_eq method_eq (hstatus.trans status_eq) holds requested
      ((hbody method_eq).trans body_eq)
  | kept holds not_sent library_eq =>
    rw [← hstatus] at not_sent library_eq
    exact .kept holds not_sent library_eq

end Outcome

/-! ## Behind the checks -/

theorem answer_gives (production : Bool) (e : Failure) :
    Gives now (e.answer production) fun response ↦ response.status = e.kind.status :=
  Gives.log.bind fun _ _ ↦ .pure rfl

/-- A request for a message is answered as fulfilled if the message has been sent, and only then. -/
theorem answerEmail_gives (h : s.Holds box) (fresh : Fresh) (segment : String)
    (hmethod : r.method = "POST") :
    Gives now (s.answerEmail fresh segment r) (Outcome True s now (.email segment) r box) := by
  unfold answerEmail
  cases hkey : Http.segmentText? segment with
  | none => exact .pure (.kept h nofun fun _ ↦ rfl)
  | some key =>
    refine (sendFor_gives h fresh.message key r).within.bind ?_
    rintro ⟨o, s'⟩ (⟨id, submission, m, ⟨⟩, hbox, hrequested⟩ | ⟨e, hlate, ⟨⟩, hbox⟩)
    · exact .pure (.sent trivial rfl hkey hmethod rfl hbox hrequested rfl)
    · exact (answer_gives s'.production e).bind fun response hstatus ↦
        .pure (.ofLate hbox hlate hstatus)

theorem clearTemplates_answered_gives (h : s.Holds box) :
    Gives now (s.answered (clearedResponse <$> clearTemplates))
      (Outcome True s now .templates r box) := by
  have hcleared : Gives now ((clearedResponse <$> clearTemplates).run s) fun o ↦
      o.2.Holds box ∧ (∀ response, o.1 = .ok response → response.status = 200) ∧
        ∀ e, o.1 = .error e → e.IsLate := by
    rw [map_eq_pure_bind]
    refine Serving.gives_bind (clearTemplates_gives h) ?_ ?_
    · rintro n s' ⟨hbox, -⟩
      exact .pure ⟨hbox, fun _ hresponse ↦ Except.ok.inj hresponse ▸ rfl, nofun⟩
    · rintro e s' ⟨hbox, hlate⟩
      exact ⟨hbox, nofun, fun _ he ↦ Except.error.inj he ▸ hlate e rfl⟩
  refine hcleared.bind ?_
  rintro ⟨o, s'⟩ ⟨hbox, hstatus, hlate⟩
  cases o with
  | ok response =>
    refine .pure (.kept hbox (fun _ _ _ ↦ nofun) ?_)
    intro hrefused
    rw [hstatus response rfl] at hrefused
    rcases hrefused with hrefused | hrefused <;> cases hrefused
  | error e =>
    exact (answer_gives s'.production e).bind fun response hstatus ↦
      .pure (.ofLate hbox (hlate e rfl) hstatus)

theorem answerRoute_gives (h : s.Holds box) (fresh : Fresh) (route : Route) (r : Request) :
    Gives now (s.answerRoute fresh route r) (Outcome True s now route r box) := by
  unfold answerRoute
  cases hmethod : route.methods.contains r.method with
  | false =>
    refine .pure (.kept h ?_ fun _ ↦ rfl)
    intro hok
    dsimp only at hok
    split at hok
    · cases hok
    · cases hok
  | true =>
    cases route with
    | email segment =>
      have hpost : r.method = "POST" := by simpa [Route.methods] using hmethod
      exact answerEmail_gives h fresh segment hpost
    | templates => exact clearTemplates_answered_gives h
    | health =>
      exact Gives.clock.bind fun _ _ ↦ .pure (.kept h (fun _ _ _ ↦ nofun) fun _ ↦ rfl)
    | metrics =>
      refine Gives.bind (P := fun response ↦ response.status = 200) ?_ fun response hstatus ↦ ?_
      · exact Gives.count.bind fun _ _ _ hj ↦ ⟨rfl, hj⟩
      · refine .pure (.kept h (fun _ _ _ ↦ nofun) fun _ ↦ rfl)
    | nowhere => cases hmethod

/-! ## The checks -/

theorem refusal?_eq_none {key : Option String} (h : refusal? key r = none) :
    ∃ token, key = some token ∧ token ≠ "" ∧
      (r.visible? "authorization").bind Http.bearerToken? = some token := by
  unfold refusal? at h
  split at h
  · cases h
  · split at h
    · cases h
    · rename_i token htoken
      split at h
      · rename_i hkey
        obtain ⟨k, hk, hsame⟩ := (Option.any_eq_true _ _).mp hkey
        obtain ⟨hne, heq⟩ := Bool.and_eq_true_iff.mp hsame
        rw [eq_of_beq heq] at hk hne
        exact ⟨token, hk, bne_iff_ne.mp hne, htoken⟩
      · cases h

/-- The key. -/
theorem answerKeyed_gives (h : s.Holds box) (fresh : Fresh) (route : Route) (r : Request) :
    Gives now (s.answerKeyed fresh route r) (Outcome (s.Admitted r) s now route r box) := by
  unfold answerKeyed
  cases hrefusal : refusal? s.settings.api.key r with
  | none =>
    exact (answerRoute_gives h fresh route r).weaken fun _ ho ↦
      ho.check fun _ ↦ refusal?_eq_none hrefusal
  | some refusal =>
    refine Gives.log.bind fun _ _ ↦ (answer_gives s.production _).bind fun response hstatus ↦ ?_
    exact .pure (.ofTurnedAway h rfl hstatus)

theorem withHeaders_status (headers : Http.Headers) (response : Response) :
    (response.withHeaders headers).status = response.status := by
  induction headers generalizing response with
  | nil => rfl
  | cons header headers ih => exact ih (response.withHeader header.1 header.2)

theorem withHeaders_body (headers : Http.Headers) (response : Response) :
    (response.withHeaders headers).body = response.body := by
  induction headers generalizing response with
  | nil => rfl
  | cons header headers ih => exact ih (response.withHeader header.1 header.2)

/-- The rate limit. -/
theorem answerLimited_gives (h : s.Holds box) (fresh : Fresh) (route : Route) (r : Request) :
    Gives now (s.answerLimited fresh route r)
      (Outcome (s.WithinLimit now r ∧ s.Admitted r) s now route r box) := by
  unfold answerLimited
  cases henabled : s.limiter.settings.enabled with
  | false =>
    exact (answerKeyed_gives h fresh route r).weaken fun _ ho ↦
      ho.check fun hadmitted ↦ ⟨.inl henabled, hadmitted⟩
  | true =>
    refine Gives.bind (P := (· = s.limiter.checkAt (clientOf r) (Rate.instant now))) ?_ ?_
    · exact Gives.clock.bind fun _ hnow ↦ hnow ▸ .pure rfl
    · rintro ⟨limiter, verdict⟩ hcheck
      cases verdict with
      | allowed remaining limit resetAt =>
        apply Gives.count.bind
        intro _ _
        have hlimit : s.WithinLimit now r := .inr ⟨remaining, limit, resetAt, by rw [← hcheck]⟩
        have hkeyed : Gives now ({ s with limiter }.answerKeyed fresh route r)
            (Outcome (s.Admitted r) s now route r box) :=
          (answerKeyed_gives (s := { s with limiter }) h fresh route r).weaken fun _ ho ↦
            ho.ofLimiter
        refine hkeyed.bind fun (s', response) ho ↦ .pure ?_
        exact (ho.headers (withHeaders_status _ response) fun _ ↦ withHeaders_body _ response).check
          fun hadmitted ↦ ⟨hlimit, hadmitted⟩
      | denied retryAfter limit resetAt =>
        refine Gives.count.bind fun _ _ ↦ Gives.log.bind fun _ _ ↦ ?_
        refine (answer_gives s.production _).bind fun response hstatus ↦ .pure ?_
        exact .ofTurnedAway h rfl ((withHeaders_status _ response).trans hstatus)

/-! ## The whole way -/

/-- What is sent stands behind the checks. -/
theorem answerBounded_gives (h : s.Holds box) (fresh : Fresh) (route : Route) (r : Request) :
    Gives now (s.answerBounded fresh route r)
      (Outcome (s.WithinLimit now r ∧ s.Admitted r) s now route r box) := by
  unfold answerBounded
  cases isTooLong s.settings.server.bodyLimit r with
  | true => exact .pure (.kept h nofun fun _ ↦ rfl)
  | false =>
    cases hroute : route.isProtected with
    | true => exact answerLimited_gives h fresh route r
    | false =>
      apply (answerRoute_gives h fresh route r).weaken
      intro o ho
      cases ho with
      | sent _ route_eq =>
        rw [route_eq] at hroute
        cases hroute
      | kept holds not_sent library_eq => exact .kept holds not_sent library_eq

theorem report_gives (status : Nat) : Gives now (report status) fun _ ↦ True := by
  unfold report
  apply Gives.log.bind
  intro _ _
  split
  · exact Gives.log
  · exact .pure trivial

theorem answerTraced_gives (h : s.Holds box) (fresh : Fresh) (id : String) (route : Route)
    (r : Request) :
    Gives now (s.answerTraced fresh id route r)
      (Outcome (s.WithinLimit now r ∧ s.Admitted r) s now route r box) := by
  refine Gives.within (Gives.log.bind fun _ _ ↦ ?_)
  apply (answerBounded_gives h fresh route r).bind
  rintro ⟨s', response⟩ ho
  exact (report_gives response.status).bind fun _ _ ↦ .pure ho

theorem sentTo_status (r : Request) (response : Response) :
    (sentTo r response).status = response.status := by
  unfold sentTo
  split
  · rfl
  · rfl

theorem sentTo_body (hpost : r.method = "POST") (response : Response) :
    (sentTo r response).body = response.body := by
  rw [sentTo, hpost]
  rfl

/-- What comes of a request. -/
theorem serve_gives (h : s.Holds box) (fresh : Fresh) (r : Request) :
    Gives now (s.serve fresh r)
      (Outcome (s.WithinLimit now r ∧ s.Admitted r) s now (Route.ofPath r.path) r box) := by
  have hdressed {s' : Service} {response : Response}
      (ho : Outcome (s.WithinLimit now r ∧ s.Admitted r) s now (Route.ofPath r.path) r box
        (s', response)) :
      Outcome (s.WithinLimit now r ∧ s.Admitted r) s now (Route.ofPath r.path) r box
        (s', sentTo r ((response.withHeaders ((Route.ofPath r.path).allow r.method)).withHeader
          "x-request-id" (identify fresh r))) := by
    refine ho.headers ?_ fun hpost ↦ ?_
    · rw [sentTo_status]
      exact withHeaders_status _ response
    · rw [sentTo_body hpost]
      exact withHeaders_body _ response
  unfold serve
  dsimp only
  split
  · rename_i hoptions
    refine .pure (hdressed (.kept h ?_ fun _ ↦ rfl))
    intro _ hpost
    exact absurd (hoptions.symm.trans hpost) (by decide)
  · apply (answerTraced_gives h fresh _ (Route.ofPath r.path) r).bind
    rintro ⟨s', response⟩ ho
    refine .pure (hdressed (ho.headers (withHeaders_status _ response) ?_))
    intro _
    exact withHeaders_body _ response

/-! ## Runs -/

/-- What can happen to a service. -/
inductive Event where
  /-- The clock moves. -/
  | clock (now : Int)
  /-- A request comes in, and there are names for it that have not been used before. -/
  | request (fresh : Fresh) (r : Request)

/-- A request with what came of it: the time, the service before and after, and the response. -/
structure Exchange where
  now : Int
  before : Service
  request : Request
  after : Service
  response : Response

/-- What comes of a number of events, one after the other. -/
def exchanges (s : Service) (journal : Journal) : List Event → List Exchange
  | [] => []
  | .clock now :: events => s.exchanges { journal with now } events
  | .request fresh r :: events =>
    let served := (s.serve fresh r).run journal
    ⟨journal.now, s, r, served.1.1, served.1.2⟩ :: served.1.1.exchanges served.2 events

/-- The messages that a service has taken. -/
def taken (s : Service) : List Mail.Delivered := s.transport.delivered

/-- A request to send a message that is answered as fulfilled. -/
def Exchange.Fulfilled (x : Exchange) : Prop :=
  x.request.method = "POST" ∧ (∃ segment, Route.ofPath x.request.path = .email segment) ∧
    x.response.status = 200

/-- The one message that an exchange has sent: the request was within the rate limit and showed the
key of the service, the message is the one that it asked for, and the response names it. -/
def Exchange.Sends (x : Exchange) (d : Mail.Delivered) : Prop :=
  x.after.taken = x.before.taken ++ [d] ∧ x.before.WithinLimit x.now x.request ∧
    x.before.Admitted x.request ∧
    (∃ segment key submission, Route.ofPath x.request.path = .email segment ∧
      Http.segmentText? segment = some key ∧
      x.before.Requested x.now key x.request submission d.message) ∧
    x.response.body = (sentResponse d.id).body

/-- What is known of an exchange by itself. -/
def Exchange.Sound (x : Exchange) : Prop :=
  ∃ box, x.before.Holds box ∧
    Outcome (x.before.WithinLimit x.now x.request ∧ x.before.Admitted x.request) x.before x.now
      (Route.ofPath x.request.path) x.request box (x.after, x.response)

/-- A service that takes messages into memory has taken those that it holds. -/
theorem Holds.taken_eq (h : s.Holds box) : s.taken = box := by
  rw [taken, h]
  rfl

/-- What an exchange does, from what is known of it. -/
theorem Exchange.Sound.delivers {x : Exchange} (h : x.Sound) :
    (x.Fulfilled → ∃ d, x.Sends d) ∧
    (¬x.Fulfilled → x.after.taken = x.before.taken) ∧
    (x.response.status = 401 ∨ x.response.status = 429 →
      x.after.renderer.library = x.before.renderer.library) := by
  obtain ⟨now, before, request, after, response⟩ := x
  obtain ⟨box, hbox, ho⟩ := h
  dsimp only at hbox ho ⊢
  cases ho with
  | sent checked route_eq key_eq method_eq status_eq holds requested body_eq =>
    rename_i segment key submission d
    refine ⟨?_, ?_, ?_⟩
    · intro _
      have htaken : after.taken = before.taken ++ [d] :=
        holds.taken_eq.trans (congrArg (· ++ [d]) hbox.taken_eq.symm)
      obtain ⟨hlimit, hadmitted⟩ := checked
      exact ⟨d, htaken, hlimit, hadmitted,
        ⟨segment, key, submission, route_eq, key_eq, requested⟩, body_eq⟩
    · intro hnot
      exact absurd ⟨method_eq, ⟨segment, route_eq⟩, status_eq⟩ hnot
    · intro hrefused
      rw [status_eq] at hrefused
      rcases hrefused with hrefused | hrefused <;> cases hrefused
  | kept holds not_sent library_eq =>
    refine ⟨?_, ?_, library_eq⟩
    · rintro ⟨hpost, ⟨segment, hroute⟩, hstatus⟩
      exact absurd hroute (not_sent hstatus hpost segment)
    · intro _
      exact holds.taken_eq.trans hbox.taken_eq.symm

/-- A service goes on taking messages into memory. -/
theorem Outcome.exists_holds {o : Service × Response} (h : Outcome P s now route r box o) :
    ∃ box', o.1.Holds box' := by
  cases h with
  | sent _ _ _ _ _ holds => exact ⟨_, holds⟩
  | kept holds => exact ⟨_, holds⟩

theorem exchanges_sound {s : Service} {box : List Mail.Delivered} (h : s.Holds box)
    (journal : Journal) (events : List Event) : ∀ x ∈ s.exchanges journal events, x.Sound := by
  induction events generalizing s box journal with
  | nil =>
    intro x hx
    rw [exchanges] at hx
    exact absurd hx List.not_mem_nil
  | cons event events ih =>
    cases event with
    | clock now =>
      rw [exchanges]
      exact ih h _
    | request fresh r =>
      obtain ⟨ho, -⟩ := serve_gives h fresh r journal rfl
      obtain ⟨box', hbox'⟩ := ho.exists_holds
      rw [exchanges]
      intro x hx
      rcases List.mem_cons.mp hx with rfl | hx
      · exact ⟨box, h, ho⟩
      · exact ih hbox' _ x hx

/-- Whatever is asked of a service that takes messages into memory: a request to send a message that
is answered as fulfilled has sent one message, the one that it may send, and every other request has
sent none. A request that is turned away at the key or at the rate limit leaves the templates as
they are. -/
theorem exchanges_deliver (s : Service) (delivered : List Mail.Delivered) (journal : Journal)
    (events : List Event) :
    ∀ x ∈ { s with transport := .memory { delivered } }.exchanges journal events,
      (x.Fulfilled → ∃ d, x.Sends d) ∧
      (¬x.Fulfilled → x.after.taken = x.before.taken) ∧
      (x.response.status = 401 ∨ x.response.status = 429 →
        x.after.renderer.library = x.before.renderer.library) := by
  intro x hx
  have hholds : { s with transport := .memory { delivered } }.Holds delivered := rfl
  exact (exchanges_sound hholds journal events x hx).delivers

/-- A service with one template, and with a key. -/
def noteService : Service where
  settings := { api := { key := some "secret" } }
  origins := .any
  files := Template.Desk.noteFiles
  renderer := { library := Template.Desk.noteDesk.library, store := Template.Desk.noTexts }
  transport := .memory {}
  limiter := { settings := {} }

/-- A request to send that template. -/
def noteRequest (token : String) : Request where
  method := "POST"
  path := "/api/email/note"
  headers := [("authorization", "Bearer " ++ token), ("content-type", "application/json")]
  body := "\x7b\"to\": [\"ann@example.org\"], \"subject\": \"Hi\"\x7d"

/-- Someone guesses the key, and then someone else knows it. -/
def noteEvents : List Event :=
  [.request ⟨"first", "1", "a"⟩ (noteRequest "guess"), .clock 1000,
    .request ⟨"second", "2", "b"⟩ (noteRequest "secret")]

theorem exchanges_deliver_noteEvents :
    (noteService.exchanges {} noteEvents).map (·.response.status) = [401, 200] ∧
      ∃ x ∈ noteService.exchanges {} noteEvents, x.Fulfilled ∧ ∃ d, x.Sends d := by
  refine ⟨by decide +kernel, ?_⟩
  have hserved : ("POST", Route.email "note", 200) ∈ (noteService.exchanges {} noteEvents).map
      fun x ↦ (x.request.method, Route.ofPath x.request.path, x.response.status) := by
    decide +kernel
  obtain ⟨x, hx, heq⟩ := List.mem_map.mp hserved
  obtain ⟨hpost, hroute, hstatus⟩ := by simpa only [Prod.mk.injEq] using heq
  have hfulfilled : x.Fulfilled := ⟨hpost, ⟨"note", hroute⟩, hstatus⟩
  exact ⟨x, hx, hfulfilled, (exchanges_deliver noteService [] {} noteEvents x hx).1 hfulfilled⟩

end Mailroom.Service
