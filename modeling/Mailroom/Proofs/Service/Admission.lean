import Mailroom.Proofs.Http.Origin
import Mailroom.Proofs.Service.Configured

/-!
# Who may pass

A request meets three checks on its way to what it asks for: the length that it declares, the rate
limit and the key. Each of them turns requests away with a status of its own, and nothing behind
them answers with one of these. So the status of an answer tells which check has turned a request
away, if one has (`Checked`, from the inside to the outside; `serve_checked`), and a request that
none of them turns away is answered by what it asks for (`serve_passes`).
-/

namespace Mailroom

open Journal (Gives)

/-- No failure is answered as a request that is too long. -/
theorem Failure.Kind.status_ne_tooLong (k : Kind) : k.status ≠ 413 := by
  cases k with
  | _ => exact nofun

namespace Service

open Http (Request Response)

variable {α β : Type} {now : Int} {s s' : Service} {r : Request} {route : Route}

/-- What a service was set up with. -/
def setup (s : Service) : Settings × Bool × Http.Origins × Files.Tree :=
  (s.settings, s.production, s.origins, s.files)

/-! ## Steps behind the checks -/

/-- A step in the fulfilment of a request has left alone what the service was set up with. If it has
failed, that has nothing to do with who may pass. -/
structure Kept (s : Service) (o : Serving.End α) : Prop where
  setup_eq : o.2.setup = s.setup
  isLate : ∀ e, o.1 = .error e → e.IsLate

theorem Kept.ofError {e : Failure} (h : Kept (α := α) s (.error e, s')) :
    Kept (α := β) s (.error e, s') :=
  ⟨h.setup_eq, fun _ he ↦ h.isLate _ (Except.error.inj he ▸ rfl)⟩

/-- Two steps, one after the other. -/
theorem kept_bind {act : Serving α} {f : α → Serving β} (h : Gives now (act.run s) (Kept s))
    (hf : ∀ a s', s'.setup = s.setup → Gives now ((f a).run s') (Kept s')) :
    Gives now ((act >>= f).run s) (Kept s) := by
  refine Serving.gives_bind h (fun a s₁ ha ↦ ?_) fun _ _ he ↦ he.ofError
  exact (hf a s₁ ha.setup_eq).weaken fun _ ho ↦ ⟨ho.setup_eq.trans ha.setup_eq, ho.isLate⟩

theorem submitted_kept (r : Request) : Gives now ((submitted r).run s) (Kept s) := by
  refine submitted_gives.weaken ?_
  rintro ⟨o, _⟩ ⟨rfl, ⟨submission, -, rfl⟩ | ⟨e, hlate, rfl⟩⟩
  · exact ⟨rfl, nofun⟩
  · exact ⟨rfl, fun _ he ↦ Except.error.inj he ▸ hlate⟩

theorem page_kept (key locale : String) (payload : Json.Members) :
    Gives now ((page key locale payload).run s) (Kept s) := by
  refine Serving.gives_get ?_
  refine Serving.gives_lift ((s.renderer.render_steady s.files key locale payload).gives now) ?_
  rintro ⟨renderer, outcome⟩ -
  refine Serving.gives_set ?_
  cases outcome with
  | ok html => exact .pure ⟨rfl, nofun⟩
  | error e => exact .pure ⟨rfl, fun _ he ↦ Except.error.inj he ▸ Failure.template_isLate e⟩

theorem dispatch_kept (fresh : Mail.Fresh) (key locale : String) (m : Mail.Outgoing) :
    Gives now ((dispatch fresh key locale m).run s) (Kept s) := by
  refine Serving.gives_get ?_
  refine Serving.gives_lift (send_tells s.transport fresh m) ?_
  rintro ⟨transport, outcome⟩ -
  refine Serving.gives_set ?_
  cases outcome with
  | ok id => exact Serving.gives_lift .count fun _ _ ↦ .pure ⟨rfl, nofun⟩
  | error fault =>
    refine Serving.gives_lift .count fun _ _ ↦ Serving.gives_lift .log fun _ _ ↦ .pure ⟨rfl, ?_⟩
    rintro _ ⟨⟩
    cases fault <;> exact ⟨nofun, nofun⟩

theorem sendFor_kept (fresh : Mail.Fresh) (key : String) (r : Request) :
    Gives now ((sendFor fresh key r).run s) (Kept s) := by
  refine kept_bind (submitted_kept r) fun submission s _ ↦ Serving.gives_get ?_
  cases s.renderer.library.has s.files key with
  | false => exact .pure ⟨rfl, fun _ he ↦ Except.error.inj he ▸ ⟨nofun, nofun⟩⟩
  | true =>
    refine kept_bind (page_kept key submission.locale submission.payload) fun html s _ ↦ ?_
    refine kept_bind (dispatch_kept fresh key submission.locale _) fun id s _ ↦ ?_
    exact Serving.gives_get (Serving.gives_lift .log fun _ _ ↦ .pure ⟨rfl, nofun⟩)

theorem clearTemplates_kept : Gives now (clearTemplates.run s) (Kept s) := by
  refine Serving.gives_get (Serving.gives_lift Template.Library.clear_gives ?_)
  rintro ⟨library, outcome⟩ -
  refine Serving.gives_set ?_
  cases outcome with
  | ok n => exact .pure ⟨rfl, nofun⟩
  | error e => exact .pure ⟨rfl, fun _ he ↦ Except.error.inj he ▸ Failure.template_isLate e⟩

/-! ## Answers -/

/-- What comes of a request. The status of the answer tells which check has turned the request away,
the service is set up as before, and the answer allows no origin by itself. -/
structure Checked (tooLong limited refused : Prop) (s : Service) (o : Service × Response) :
    Prop where
  setup_eq : o.1.setup = s.setup
  tooLong_iff : o.2.status = 413 ↔ tooLong
  limited_iff : o.2.status = 429 ↔ limited
  refused_iff : o.2.status = 401 ↔ refused
  not_grants : ∀ origin, ¬o.2.Grants origin

namespace Checked

variable {tooLong limited refused : Prop} {response response' : Response}

/-- Behind the checks. -/
theorem inside (hsetup : s'.setup = s.setup)
    (hstatus : response.status ≠ 401 ∧ response.status ≠ 413 ∧ response.status ≠ 429)
    (hgrants : ∀ origin, ¬response.Grants origin) :
    Checked False False False s (s', response) :=
  ⟨hsetup, iff_of_false hstatus.2.1 id, iff_of_false hstatus.2.2 id, iff_of_false hstatus.1 id,
    hgrants⟩

/-- Headers do not count, as long as they allow nobody. -/
theorem headers (h : Checked tooLong limited refused s (s', response))
    (hstatus : response'.status = response.status)
    (hgrants : ∀ origin, response'.Grants origin ↔ response.Grants origin) :
    Checked tooLong limited refused s (s', response') := by
  refine ⟨h.setup_eq, ?_, ?_, ?_, fun origin ↦ (hgrants origin).not.mpr (h.not_grants origin)⟩
  all_goals rw [hstatus]
  · exact h.tooLong_iff
  · exact h.limited_iff
  · exact h.refused_iff

end Checked

theorem answer_eq (production : Bool) (e : Failure) :
    Gives now (e.answer production) (· = e.response production) :=
  Gives.log.bind fun _ _ ↦ .pure rfl

/-- A failure behind the checks. -/
theorem failed_checked {e : Failure} (hsetup : s'.setup = s.setup) (he : e.IsLate) :
    Gives now (do return (s', ← e.answer s'.production)) (Checked False False False s) := by
  refine (answer_eq s'.production e).bind ?_
  rintro _ rfl
  obtain ⟨hkey, hrate⟩ := he.status_ne
  exact .pure (.inside hsetup ⟨hkey, e.kind.status_ne_tooLong, hrate⟩ fun _ ↦
    Response.not_grants_ofJson _ _)

theorem answerEmail_checked (fresh : Fresh) (segment : String) (r : Request) :
    Gives now (s.answerEmail fresh segment r) (Checked False False False s) := by
  unfold answerEmail
  cases Http.segmentText? segment with
  | none => exact .pure (.inside rfl ⟨nofun, nofun, nofun⟩ fun _ ↦ Response.not_grants_ofText _ _)
  | some key =>
    refine (sendFor_kept fresh.message key r).within.bind ?_
    rintro ⟨o, s'⟩ ho
    cases o with
    | ok id =>
      exact .pure (.inside ho.setup_eq ⟨nofun, nofun, nofun⟩ fun _ ↦
        Response.not_grants_ofJson _ _)
    | error e => exact failed_checked ho.setup_eq (ho.isLate e rfl)

theorem answerTemplates_checked :
    Gives now (s.answered (clearedResponse <$> clearTemplates)) (Checked False False False s) := by
  have hcleared : Gives now ((clearedResponse <$> clearTemplates).run s) fun o ↦
      Kept s o ∧ ∀ response, o.1 = .ok response → ∃ n, response = clearedResponse n := by
    rw [map_eq_pure_bind]
    refine Serving.gives_bind clearTemplates_kept ?_ fun _ _ he ↦ ⟨he.ofError, nofun⟩
    intro n s' ho
    exact .pure ⟨⟨ho.setup_eq, nofun⟩, fun _ hresponse ↦ ⟨n, (Except.ok.inj hresponse).symm⟩⟩
  refine hcleared.bind ?_
  rintro ⟨o, s'⟩ ⟨ho, hresponse⟩
  cases o with
  | ok response =>
    obtain ⟨n, rfl⟩ := hresponse response rfl
    exact .pure (.inside ho.setup_eq ⟨nofun, nofun, nofun⟩ fun _ ↦ Response.not_grants_ofJson _ _)
  | error e => exact failed_checked ho.setup_eq (ho.isLate e rfl)

theorem metrics_checked :
    Gives now s.metrics fun response ↦ Checked False False False s (s, response) := by
  refine Gives.count.bind fun _ _ j hj ↦ ⟨.inside rfl ⟨nofun, nofun, nofun⟩ fun _ ↦ ?_, hj⟩
  exact Response.not_grants_of_ne (List.forall_mem_singleton.mpr (by decide))

/-- Nothing behind the checks answers as they do. -/
theorem answerRoute_checked (fresh : Fresh) (route : Route) (r : Request) :
    Gives now (s.answerRoute fresh route r) (Checked False False False s) := by
  unfold answerRoute
  split
  · have hnobody (status : Nat) (origin : String) : ¬({ status } : Response).Grants origin :=
      Response.not_grants_of_ne nofun
    split
    · exact .pure (.inside rfl ⟨nofun, nofun, nofun⟩ (hnobody _))
    · exact .pure (.inside rfl ⟨nofun, nofun, nofun⟩ (hnobody _))
  · cases route with
    | email segment => exact answerEmail_checked fresh segment r
    | templates => exact answerTemplates_checked
    | health =>
      exact Gives.clock.bind fun _ _ ↦ .pure (.inside rfl ⟨nofun, nofun, nofun⟩ fun _ ↦
        Response.not_grants_ofJson _ _)
    | metrics => exact metrics_checked.bind fun _ ho ↦ .pure ho
    | nowhere =>
      exact .pure (.inside rfl ⟨nofun, nofun, nofun⟩ fun _ ↦ Response.not_grants_of_ne nofun)

/-! ## The checks -/

theorem refusal?_eq_none_iff : refusal? s.settings.api.key r = none ↔ s.Admitted r := by
  refine ⟨refusal?_eq_none, fun ⟨token, hkey, hne, htoken⟩ ↦ ?_⟩
  obtain ⟨value, hvalue, -⟩ := Option.bind_eq_some_iff.mp htoken
  have hheader : r.header? "authorization" = some value := (Option.filter_eq_some_iff.mp hvalue).1
  rw [refusal?, hheader, htoken, hkey]
  simp [hne]

/-- The key. -/
theorem answerKeyed_checked (fresh : Fresh) (route : Route) (r : Request) :
    Gives now (s.answerKeyed fresh route r) (Checked False False (¬s.Admitted r) s) := by
  unfold answerKeyed
  rw [← refusal?_eq_none_iff]
  cases refusal? s.settings.api.key r with
  | none =>
    refine (answerRoute_checked fresh route r).weaken fun _ ho ↦ { ho with refused_iff := ?_ }
    exact ho.refused_iff.trans (by simp)
  | some refusal =>
    refine Gives.log.bind fun _ _ ↦ (answer_eq s.production _).bind ?_
    rintro _ rfl
    exact .pure ⟨rfl, iff_of_false nofun id, iff_of_false nofun id, iff_of_true rfl nofun,
      fun _ ↦ Response.not_grants_ofJson _ _⟩

theorem rateHeaders_ne (limit remaining : Nat) (resetAt : Int) :
    ∀ header ∈ rateHeaders limit remaining resetAt, header.1 ≠ "access-control-allow-origin" := by
  simp [rateHeaders]

/-- The rate limit. -/
theorem answerLimited_checked (fresh : Fresh) (route : Route) (r : Request) :
    Gives now (s.answerLimited fresh route r)
      (Checked False (¬s.WithinLimit now r) (s.WithinLimit now r ∧ ¬s.Admitted r) s) := by
  unfold answerLimited
  cases henabled : s.limiter.settings.enabled with
  | false =>
    have hwithin : s.WithinLimit now r := .inl henabled
    refine (answerKeyed_checked fresh route r).weaken fun _ ho ↦ ?_
    exact ⟨ho.setup_eq, ho.tooLong_iff, ho.limited_iff.trans (by simp [hwithin]),
      ho.refused_iff.trans (by simp [hwithin]), ho.not_grants⟩
  | true =>
    refine Gives.bind (P := (· = s.limiter.checkAt (clientOf r) (Rate.instant now))) ?_ ?_
    · exact Gives.clock.bind fun _ hnow ↦ hnow ▸ .pure rfl
    · rintro ⟨limiter, verdict⟩ hcheck
      cases verdict with
      | allowed remaining limit resetAt =>
        have hwithin : s.WithinLimit now r := .inr ⟨remaining, limit, resetAt, by rw [← hcheck]⟩
        refine Gives.count.bind fun _ _ ↦ ?_
        refine (answerKeyed_checked (s := { s with limiter }) fresh route r).bind ?_
        rintro ⟨s', response⟩ ho
        have hlimited : Checked False (¬s.WithinLimit now r)
            (s.WithinLimit now r ∧ ¬s.Admitted r) s (s', response) :=
          ⟨ho.setup_eq, ho.tooLong_iff, ho.limited_iff.trans (by simp [hwithin]),
            ho.refused_iff.trans (by simp [hwithin, Admitted]), ho.not_grants⟩
        exact .pure (hlimited.headers (withHeaders_status _ _) fun _ ↦
          Response.grants_withHeaders_of_ne (rateHeaders_ne _ _ _))
      | denied retryAfter limit resetAt =>
        have hbeyond : ¬s.WithinLimit now r := by
          rintro (hoff | ⟨remaining, limit, resetAt, hallowed⟩)
          · cases henabled.symm.trans hoff
          · rw [← hcheck] at hallowed
            cases hallowed
        refine Gives.count.bind fun _ _ ↦ Gives.log.bind fun _ _ ↦ ?_
        refine (answer_eq s.production _).bind ?_
        rintro _ rfl
        have hdenied (reason : String) : Checked False (¬s.WithinLimit now r)
            (s.WithinLimit now r ∧ ¬s.Admitted r) s
            ({ s with limiter }, (Failure.rateLimited reason).response s.production) :=
          ⟨rfl, iff_of_false nofun id, iff_of_true rfl hbeyond,
            iff_of_false nofun fun h ↦ hbeyond h.1, fun _ ↦ Response.not_grants_ofJson _ _⟩
        refine .pure ((hdenied _).headers (withHeaders_status _ _) fun _ ↦
          Response.grants_withHeaders_of_ne ?_)
        exact List.forall_mem_append.mpr ⟨rateHeaders_ne _ _ _, by simp⟩

/-- The three checks in their order. -/
abbrev CheckedFor (now : Int) (route : Route) (r : Request) (s : Service) :=
  Checked (isTooLong s.settings.server.bodyLimit r = true)
    (isTooLong s.settings.server.bodyLimit r = false ∧ route.isProtected = true ∧
      ¬s.WithinLimit now r)
    (isTooLong s.settings.server.bodyLimit r = false ∧ route.isProtected = true ∧
      s.WithinLimit now r ∧ ¬s.Admitted r) s

/-- The length. -/
theorem answerBounded_checked (fresh : Fresh) (route : Route) (r : Request) :
    Gives now (s.answerBounded fresh route r) (s.CheckedFor now route r) := by
  unfold answerBounded CheckedFor
  cases isTooLong s.settings.server.bodyLimit r with
  | true =>
    exact .pure ⟨rfl, iff_of_true rfl rfl, iff_of_false nofun nofun, iff_of_false nofun nofun,
      fun _ ↦ Response.not_grants_ofText _ _⟩
  | false =>
    cases route.isProtected with
    | true =>
      refine (answerLimited_checked fresh route r).weaken fun _ ho ↦ ?_
      exact ⟨ho.setup_eq, ho.tooLong_iff.trans (by simp), ho.limited_iff.trans (by simp),
        ho.refused_iff.trans (by simp), ho.not_grants⟩
    | false =>
      refine (answerRoute_checked fresh route r).weaken fun _ ho ↦ ?_
      exact ⟨ho.setup_eq, ho.tooLong_iff.trans (by simp), ho.limited_iff.trans (by simp),
        ho.refused_iff.trans (by simp), ho.not_grants⟩

theorem answerTraced_checked (fresh : Fresh) (id : String) (route : Route) (r : Request) :
    Gives now (s.answerTraced fresh id route r) (s.CheckedFor now route r) := by
  refine Gives.within (Gives.log.bind fun _ _ ↦ ?_)
  refine (answerBounded_checked fresh route r).bind fun o ho ↦ ?_
  exact (report_gives o.2.status).bind fun _ _ ↦ .pure ho

/-! ## Past the checks -/

section

variable {fresh : Fresh} {Q : Nat → String → Prop}

/-- A request that none of the checks turns away is answered by what it asks for. Only headers are
added on the way back, so this says something about the status and the body. -/
theorem answerLimited_passes (hwithin : s.WithinLimit now r) (hadmitted : s.Admitted r)
    (h : ∀ s' : Service, s'.setup = s.setup →
      Gives now (s'.answerRoute fresh route r) fun o ↦ Q o.2.status o.2.body) :
    Gives now (s.answerLimited fresh route r) fun o ↦ Q o.2.status o.2.body := by
  have hkeyed (s' : Service) (hs' : s'.setup = s.setup) :
      Gives now (s'.answerKeyed fresh route r) fun o ↦ Q o.2.status o.2.body := by
    have hkey : s'.settings.api.key = s.settings.api.key :=
      congrArg (fun setup ↦ setup.1.api.key) hs'
    rw [answerKeyed, hkey, refusal?_eq_none_iff.mpr hadmitted]
    exact h s' hs'
  unfold answerLimited
  cases henabled : s.limiter.settings.enabled with
  | false => exact hkeyed s rfl
  | true =>
    refine Gives.bind (P := (· = s.limiter.checkAt (clientOf r) (Rate.instant now))) ?_ ?_
    · exact Gives.clock.bind fun _ hnow ↦ hnow ▸ .pure rfl
    · rintro ⟨limiter, verdict⟩ hcheck
      cases verdict with
      | allowed remaining limit resetAt =>
        refine Gives.count.bind fun _ _ ↦ (hkeyed { s with limiter } rfl).bind fun o ho ↦ .pure ?_
        rw [withHeaders_status, withHeaders_body]
        exact ho
      | denied retryAfter limit resetAt =>
        obtain hoff | ⟨remaining, limit, resetAt, hallowed⟩ := hwithin
        · cases henabled.symm.trans hoff
        · rw [← hcheck] at hallowed
          cases hallowed

theorem answerTraced_passes (id : String)
    (hlength : isTooLong s.settings.server.bodyLimit r = false) (hroute : route.isProtected = true)
    (hwithin : s.WithinLimit now r) (hadmitted : s.Admitted r)
    (h : ∀ s' : Service, s'.setup = s.setup →
      Gives now (s'.answerRoute fresh route r) fun o ↦ Q o.2.status o.2.body) :
    Gives now (s.answerTraced fresh id route r) fun o ↦ Q o.2.status o.2.body := by
  refine Gives.within (Gives.log.bind fun _ _ ↦ ?_)
  refine Gives.bind (P := fun o ↦ Q o.2.status o.2.body) ?_ fun o ho ↦ ?_
  · rw [answerBounded, hlength, hroute]
    exact answerLimited_passes hwithin hadmitted h
  · exact (report_gives o.2.status).bind fun _ _ ↦ .pure ho

end

/-! ## The whole way -/

theorem allow_ne (route : Route) (method : String) :
    ∀ header ∈ route.allow method, header.1 ≠ "access-control-allow-origin" := by
  unfold Route.allow
  split
  · exact nofun
  · simp

/-- What a response becomes on its way out. If it has said nothing of an origin, then it says what
the origins of the service say. -/
structure Dressed (o : Http.Origins) (r : Request) (response response' : Response) : Prop where
  status_eq : response'.status = response.status
  body_eq : r.method = "POST" → response'.body = response.body
  grants_iff : ∀ origin, r.header? "origin" = some origin → ¬response.Grants origin →
    (response'.Grants origin ↔ o.Allows origin)

/-- The last headers allow nobody. -/
theorem grants_sentTo_iff {response : Response} {id origin : String} :
    (sentTo r ((response.withHeaders (route.allow r.method)).withHeader "x-request-id" id)).Grants
      origin ↔ response.Grants origin := by
  have hsent (response : Response) :
      (sentTo r response).Grants origin ↔ response.Grants origin := by
    unfold sentTo
    split <;> exact Iff.rfl
  rw [hsent, Response.grants_withHeader_of_ne (by decide),
    Response.grants_withHeaders_of_ne (allow_ne _ _)]

/-- A question beforehand meets no check, and what it asks for is not done. -/
theorem serve_preflight (fresh : Fresh) (hmethod : r.method = "OPTIONS") :
    Gives now (s.serve fresh r) fun o ↦ o.1 = s ∧ o.2.status = 200 ∧
      ∀ origin, r.header? "origin" = some origin →
        (o.2.Grants origin ↔ s.origins.Allows origin) := by
  unfold serve
  dsimp only
  rw [if_pos hmethod]
  refine .pure ⟨rfl, ?_, fun origin horigin ↦ ?_⟩
  · rw [sentTo_status]
    exact withHeaders_status _ _
  · rw [grants_sentTo_iff, Http.Origins.grants_preflight_iff horigin]

/-- Any other request is answered, and the answer is dressed. -/
theorem serve_dressed {fresh : Fresh} {P : Service × Response → Prop}
    (hmethod : r.method ≠ "OPTIONS")
    (h : Gives now (s.answerTraced fresh (identify fresh r) (Route.ofPath r.path) r) P) :
    Gives now (s.serve fresh r) fun o ↦
      ∃ response, P (o.1, response) ∧ Dressed o.1.origins r response o.2 := by
  unfold serve
  dsimp only
  rw [if_neg hmethod]
  refine h.bind ?_
  rintro ⟨s', response⟩ ho
  refine .pure ⟨response, ho, ?_, fun hpost ↦ ?_, fun origin horigin hnone ↦ ?_⟩
  · rw [sentTo_status]
    exact (withHeaders_status _ _).trans (withHeaders_status _ _)
  · rw [sentTo_body hpost]
    exact (withHeaders_body _ _).trans (withHeaders_body _ _)
  · rw [grants_sentTo_iff, Http.Origins.grants_withHeaders_iff hnone horigin]

/-- The status of an answer tells which check has turned the request away. -/
theorem serve_checked (fresh : Fresh) (hmethod : r.method ≠ "OPTIONS") :
    Gives now (s.serve fresh r) fun o ↦ ∃ response,
      s.CheckedFor now (Route.ofPath r.path) r (o.1, response) ∧
        Dressed s.origins r response o.2 := by
  refine (serve_dressed hmethod (answerTraced_checked fresh _ _ r)).weaken ?_
  rintro o ⟨response, ho, hdressed⟩
  have horigins : o.1.origins = s.origins := congrArg (fun setup ↦ setup.2.2.1) ho.setup_eq
  exact ⟨response, ho, horigins ▸ hdressed⟩

/-- A request that no check turns away is answered by what it asks for. -/
theorem serve_passes {fresh : Fresh} {Q : Nat → String → Prop} (hpost : r.method = "POST")
    (hlength : isTooLong s.settings.server.bodyLimit r = false)
    (hroute : (Route.ofPath r.path).isProtected = true) (hwithin : s.WithinLimit now r)
    (hadmitted : s.Admitted r)
    (h : ∀ s' : Service, s'.setup = s.setup →
      Gives now (s'.answerRoute fresh (Route.ofPath r.path) r) fun o ↦ Q o.2.status o.2.body) :
    Gives now (s.serve fresh r) fun o ↦ Q o.2.status o.2.body := by
  have hmethod : r.method ≠ "OPTIONS" := by
    rw [hpost]
    decide
  refine (serve_dressed hmethod
    (answerTraced_passes _ hlength hroute hwithin hadmitted h)).weaken ?_
  rintro o ⟨response, ho, hdressed⟩
  rw [hdressed.status_eq, hdressed.body_eq hpost]
  exact ho

/-- A service keeps what it was set up with, and its answers say of an origin what its origins
say. -/
theorem serve_grants (s : Service) (fresh : Fresh) (r : Request) :
    Gives now (s.serve fresh r) fun o ↦ o.1.setup = s.setup ∧
      ∀ origin, r.header? "origin" = some origin →
        (o.2.Grants origin ↔ s.origins.Allows origin) := by
  by_cases hmethod : r.method = "OPTIONS"
  · refine (serve_preflight fresh hmethod).weaken ?_
    rintro o ⟨rfl, -, hgrants⟩
    exact ⟨rfl, hgrants⟩
  · refine (serve_checked fresh hmethod).weaken ?_
    rintro o ⟨response, ho, hdressed⟩
    exact ⟨ho.setup_eq, fun origin horigin ↦
      hdressed.grants_iff origin horigin (ho.not_grants origin)⟩

/-- Exactly those requests are turned away at the key that come as far as that and do not show
it. -/
theorem serve_refuses (s : Service) (fresh : Fresh) (r : Request) :
    Gives now (s.serve fresh r) fun o ↦ o.2.status = 401 ↔
      r.method ≠ "OPTIONS" ∧ isTooLong s.settings.server.bodyLimit r = false ∧
        (Route.ofPath r.path).isProtected = true ∧ s.WithinLimit now r ∧ ¬s.Admitted r := by
  by_cases hmethod : r.method = "OPTIONS"
  · refine (serve_preflight fresh hmethod).weaken ?_
    rintro o ⟨-, hstatus, -⟩
    rw [hstatus]
    exact iff_of_false nofun fun h ↦ h.1 hmethod
  · refine (serve_checked fresh hmethod).weaken ?_
    rintro o ⟨response, ho, hdressed⟩
    rw [hdressed.status_eq, ho.refused_iff]
    exact (and_iff_right hmethod).symm

end Service

end Mailroom
