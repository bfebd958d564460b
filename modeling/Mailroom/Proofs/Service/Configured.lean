import Mailroom.Proofs.Files.Tree
import Mailroom.Proofs.Service.Delivery

/-!
# Whether a template is there

A library can be asked whether there is a file for a template, and it can be asked for the template.
The two agree but for files that hold no text: there is a file then, and no template. A service
answers that a template is not configured where one or the other tells so, and on no other occasion.
-/

namespace Mailroom.Template

open Desk (Request Reply)

/-- The request for a template is not refused for its key, nor for want of a source. -/
def Desk.Has (d : Desk) (key : String) : Prop :=
  ∀ e, (d.step (.ask (.compile key))).2 = .refused e →
    (∀ reason, e ≠ .invalidKey reason) ∧ ∀ missing, e ≠ .notFound missing

/-- The answer to whether there is a file for a template. -/
theorem Desk.reply_has_iff {d : Desk} {key : String} :
    (d.step (.ask (.has key))).2 = .found true ↔
      checkKey key = .ok () ∧ d.files.isFile (d.library.pathOf key) = true := by
  rw [reply_ask]
  dsimp only [Library.answered, Library.has]
  rw [Reply.found.injEq, Bool.and_eq_true]
  cases checkKey key <;> simp [Except.isOk, Except.toBool]

theorem checkKey_error {key : String} {e : LibraryError} (h : checkKey key = .error e) :
    ∃ reason, e = .invalidKey reason := by
  unfold checkKey at h
  split at h
  · cases h
    exact ⟨_, rfl⟩
  · split at h
    · cases h
    · cases h
      exact ⟨_, rfl⟩

/-- A template that is not kept is had just if there is a file for it that holds a text. -/
theorem Desk.has_iff {d : Desk} {key : String}
    (hkept : d.library.kept.lookup (keptName key) = none) :
    d.Has key ↔ checkKey key = .ok () ∧
      ∃ text, d.files.readText (d.library.pathOf key) = .ok text := by
  have hends := Library.fetching_fetched d.files key d.library
  cases hf : d.library.fetched d.files key with
  | error e =>
    rw [hf] at hends
    have hreply := reply_compile_error hf
    cases hends with
    | refused hkey =>
      obtain ⟨reason, rfl⟩ := checkKey_error hkey
      refine iff_of_false (fun h ↦ (h _ hreply).1 reason rfl) fun h ↦ ?_
      cases hkey.symm.trans h.1
    | missing hkey _ hread =>
      refine iff_of_false (fun h ↦ (h _ hreply).2 key rfl) fun ⟨_, text, htext⟩ ↦ ?_
      cases hread.symm.trans htext
    | broken hkey _ hread =>
      refine iff_of_true (fun e he ↦ ?_) ⟨hkey, _, hread⟩
      cases hreply.symm.trans he
      exact ⟨nofun, nofun⟩
  | ok found =>
    rw [hf] at hends
    have hreply := reply_compile hf
    cases hends with
    | kept _ h => cases hkept.symm.trans h
    | compiled hkey _ hread =>
      refine iff_of_true (fun e he ↦ ?_) ⟨hkey, _, hread⟩
      cases hreply.symm.trans he

/-- There is a file for a template just if the template is had, or the file holds no text. -/
theorem Desk.found_iff {d : Desk} {key : String}
    (hkept : d.library.kept.lookup (keptName key) = none) :
    (d.step (.ask (.has key))).2 = .found true ↔
      d.Has key ∨ checkKey key = .ok () ∧ d.files.Garbled (d.library.pathOf key) := by
  rw [reply_has_iff, has_iff hkept, Files.Tree.isFile_iff_readText, and_or_left]

/-- A file that holds no text is no source. -/
theorem Desk.reply_compile_garbled {d : Desk} {key : String} (hkey : checkKey key = .ok ())
    (hkept : d.library.kept.lookup (keptName key) = none)
    (h : d.files.Garbled (d.library.pathOf key)) :
    (d.step (.ask (.compile key))).2 = .refused (.notFound key) := by
  obtain ⟨fault, hread⟩ := h.readText
  exact reply_compile_error (Library.Fetching.missing hkey hkept hread).eq

end Mailroom.Template

namespace Mailroom.Service

open Http (Request Response)
open Journal (Gives)
open Template (checkKey keptName LibraryError)

variable {now : Int} {s : Service} {r : Request} {route : Route}

/-- A template is not configured: its key is none, there is no file for it, or it has not been read
and the file holds no text. -/
def Lacks (s : Service) (key : String) : Prop :=
  checkKey key ≠ .ok () ∨ s.files.isFile (s.renderer.library.pathOf key) = false ∨
    s.renderer.library.kept.lookup (keptName key) = none ∧
      s.files.Garbled (s.renderer.library.pathOf key)

/-- The answer does not say that something is not implemented, unless the request is for a template
that is not configured. -/
def Says (s : Service) (route : Route) (response : Response) : Prop :=
  response.status = 501 →
    ∃ segment key, route = .email segment ∧ Http.segmentText? segment = some key ∧ s.Lacks key

/-! ## Sending -/

theorem lacks_of_has_eq_false {key : String} (h : s.renderer.library.has s.files key = false) :
    s.Lacks key := by
  unfold Template.Library.has at h
  cases hkey : checkKey key with
  | error e => exact .inl fun hok ↦ nomatch hkey.symm.trans hok
  | ok _ =>
    rw [hkey] at h
    exact .inr (.inl h)

/-- A page fails to be found only where the file holds no text. -/
theorem lacks_of_rendered {key locale : String} {payload : Json.Members} {e : LibraryError}
    (hhas : s.renderer.library.has s.files key = true)
    (h : (s.renderer.rendered s.files key locale payload now).2 = .error e)
    (hstatus : (Failure.template e).kind.status = 501) : s.Lacks key := by
  have hends := Template.Library.fetching_fetched s.files key s.renderer.library
  unfold Template.Renderer.rendered at h
  cases hf : s.renderer.library.fetched s.files key with
  | error e' =>
    rw [hf] at h hends
    cases h
    cases hends with
    | refused hkey =>
      obtain ⟨reason, rfl⟩ := Template.checkKey_error hkey
      cases hstatus
    | missing _ hkept hread =>
      have hfile := (Bool.and_eq_true_iff.mp hhas).2
      refine .inr (.inr ⟨hkept, (Files.Tree.isFile_iff_readText.mp hfile).resolve_left ?_⟩)
      rintro ⟨text, htext⟩
      cases hread.symm.trans htext
    | broken => cases hstatus
  | ok found =>
    rw [hf] at h
    dsimp only at h
    cases hpage : { s.renderer with library := found.2 }.pageAt locale payload found.1 now with
    | error reason =>
      rw [hpage] at h
      cases h
      cases hstatus
    | ok page =>
      rw [hpage] at h
      cases h

theorem submitted_tells (r : Request) :
    Gives now ((submitted r).run s) fun (o, s') ↦ s' = s ∧
      ∀ e, o = .error e → e.kind.status ≠ 501 := by
  refine Serving.gives_get ?_
  cases submissionOf s.settings.server.bodyLimit r with
  | ok submission => exact .pure ⟨rfl, nofun⟩
  | error problems => exact .pure ⟨rfl, fun e he ↦ Except.error.inj he ▸ nofun⟩

theorem page_tells {key : String} (hhas : s.renderer.library.has s.files key = true)
    (locale : String) (payload : Json.Members) :
    Gives now ((page key locale payload).run s) fun (o, _) ↦
      ∀ e, o = .error e → e.kind.status = 501 → s.Lacks key := by
  refine Serving.gives_get ?_
  refine Serving.gives_lift (s.renderer.render_gives s.files key locale payload now) ?_
  rintro ⟨renderer, outcome⟩ hrendered
  refine Serving.gives_set ?_
  cases outcome with
  | ok html => exact .pure nofun
  | error e =>
    refine .pure fun _ he hstatus ↦ lacks_of_rendered hhas (congrArg Prod.snd hrendered).symm ?_
    exact Except.error.inj he ▸ hstatus

/-- Sending takes no time. -/
theorem send_tells (t : Mail.Transport) (fresh : Mail.Fresh) (m : Mail.Outgoing) :
    Gives now (t.send fresh m) fun _ ↦ True := by
  cases t with
  | memory box =>
    refine Gives.bind (P := fun _ ↦ True) ?_ fun _ _ ↦ .pure trivial
    unfold Mail.Outbox.send
    cases box.refusal with
    | some reason => exact .pure trivial
    | none => exact Gives.log.bind fun _ _ ↦ .pure trivial
  | remote courier relay =>
    refine Gives.bind (P := fun _ ↦ True) ?_ fun _ _ ↦ .pure trivial
    refine Gives.clock.bind fun time _ ↦ ?_
    dsimp only
    split
    · exact .pure trivial
    · rename_i message _
      rcases (courier.handOver message).run { relay } with ⟨trouble | ⟨⟩, conversation⟩
      · exact .pure trivial
      · exact Gives.log.bind fun _ _ ↦ .pure trivial

theorem dispatch_tells (fresh : Mail.Fresh) (key locale : String) (m : Mail.Outgoing) :
    Gives now ((dispatch fresh key locale m).run s) fun (o, _) ↦
      ∀ e, o = .error e → e.kind.status ≠ 501 := by
  refine Serving.gives_get ?_
  refine Serving.gives_lift (send_tells s.transport fresh m) ?_
  rintro ⟨transport, outcome⟩ -
  refine Serving.gives_set ?_
  cases outcome with
  | ok id => exact Serving.gives_lift .count fun _ _ ↦ .pure nofun
  | error fault =>
    refine Serving.gives_lift .count fun _ _ ↦ Serving.gives_lift .log fun _ _ ↦ .pure ?_
    rintro _ ⟨⟩
    cases fault <;> exact nofun

theorem sendFor_tells (fresh : Mail.Fresh) (key : String) (r : Request) :
    Gives now ((sendFor fresh key r).run s) fun (o, _) ↦
      ∀ e, o = .error e → e.kind.status = 501 → s.Lacks key := by
  refine Serving.gives_bind (submitted_tells r) ?_ ?_
  · rintro submission _ ⟨rfl, -⟩
    refine Serving.gives_get ?_
    rename_i s
    cases hhas : s.renderer.library.has s.files key with
    | false => exact .pure fun _ _ _ ↦ lacks_of_has_eq_false hhas
    | true =>
      refine Serving.gives_bind (page_tells hhas submission.locale submission.payload) ?_ ?_
      · rintro html s₁ -
        refine Serving.gives_bind (dispatch_tells fresh key submission.locale _) ?_ ?_
        · rintro id s₂ -
          exact Serving.gives_get (Serving.gives_lift .log fun _ _ ↦ .pure nofun)
        · rintro e s₂ h _ he hstatus
          exact absurd hstatus (Except.error.inj he ▸ h e rfl)
      · rintro e s₁ h
        exact h
  · rintro e _ ⟨rfl, h⟩ _ he hstatus
    exact absurd hstatus (Except.error.inj he ▸ h e rfl)

/-! ## The way of a request -/

/-- Another answer than that something is not implemented. -/
theorem Says.ofStatus {response : Response} (h : response.status ≠ 501) : Says s route response :=
  fun hstatus ↦ absurd hstatus h

theorem Says.headers {response response' : Response} (h : Says s route response)
    (hstatus : response'.status = response.status) : Says s route response' :=
  fun h' ↦ h (hstatus ▸ h')

theorem answerEmail_tells (fresh : Fresh) (segment : String) (r : Request) :
    Gives now (s.answerEmail fresh segment r) fun o ↦ Says s (.email segment) o.2 := by
  unfold answerEmail
  cases hkey : Http.segmentText? segment with
  | none => exact .pure (.ofStatus nofun)
  | some key =>
    refine (sendFor_tells fresh.message key r).within.bind ?_
    rintro ⟨o, s'⟩ h
    cases o with
    | ok id => exact .pure (.ofStatus nofun)
    | error e =>
      refine (answer_gives s'.production e).bind fun response hresponse ↦ .pure fun hstatus ↦ ?_
      exact ⟨segment, key, rfl, hkey, h e rfl (hresponse.symm.trans hstatus)⟩

theorem cleared_status {library : Template.Library} {files : Files.Tree} {e : LibraryError}
    (h : (library.cleared files).2 = .error e) : (Failure.template e).kind.status ≠ 501 := by
  obtain ⟨⟨path, reason, rfl⟩, -⟩ | ⟨_, name, reason, -, rfl, -⟩ := Template.Library.cleared_error h
  · exact nofun
  · exact nofun

theorem clearTemplates_tells :
    Gives now (s.answered (clearedResponse <$> clearTemplates)) fun o ↦
      Says s .templates o.2 := by
  have hcleared : Gives now ((clearedResponse <$> clearTemplates).run s) fun o ↦
      (∀ response, o.1 = .ok response → response.status = 200) ∧
        ∀ e, o.1 = .error e → e.kind.status ≠ 501 := by
    rw [map_eq_pure_bind]
    refine Serving.gives_bind (P := fun o ↦ ∀ e, o.1 = .error e → e.kind.status ≠ 501) ?_ ?_ ?_
    · refine Serving.gives_get (Serving.gives_lift Template.Library.clear_gives ?_)
      rintro ⟨library, outcome⟩ houtcome
      refine Serving.gives_set ?_
      cases outcome with
      | ok n => exact .pure nofun
      | error e =>
        refine .pure fun _ he ↦ Except.error.inj he ▸ ?_
        exact cleared_status (congrArg Prod.snd houtcome).symm
    · rintro n s' -
      exact .pure ⟨fun _ hresponse ↦ Except.ok.inj hresponse ▸ rfl, nofun⟩
    · rintro e s' h
      exact ⟨nofun, fun _ he ↦ Except.error.inj he ▸ h e rfl⟩
  refine hcleared.bind ?_
  rintro ⟨o, s'⟩ ⟨hok, herror⟩
  cases o with
  | ok response => exact .pure (.ofStatus (hok response rfl ▸ nofun))
  | error e =>
    refine (answer_gives s'.production e).bind fun response hstatus ↦ .pure (.ofStatus ?_)
    exact hstatus ▸ herror e rfl

theorem answerRoute_tells (fresh : Fresh) (route : Route) (r : Request) :
    Gives now (s.answerRoute fresh route r) fun o ↦ Says s route o.2 := by
  unfold answerRoute
  cases hmethod : route.methods.contains r.method with
  | false =>
    refine .pure (.ofStatus ?_)
    dsimp only
    split <;> exact nofun
  | true =>
    cases route with
    | email segment => exact answerEmail_tells fresh segment r
    | templates => exact clearTemplates_tells
    | health => exact Gives.clock.bind fun _ _ ↦ .pure (.ofStatus nofun)
    | metrics =>
      refine Gives.bind (P := fun response ↦ response.status = 200) ?_ fun response hstatus ↦ ?_
      · exact Gives.count.bind fun _ _ _ hj ↦ ⟨rfl, hj⟩
      · exact .pure (.ofStatus (hstatus ▸ nofun))
    | nowhere => cases hmethod

theorem answerKeyed_tells (fresh : Fresh) (route : Route) (r : Request) :
    Gives now (s.answerKeyed fresh route r) fun o ↦ Says s route o.2 := by
  unfold answerKeyed
  cases refusal? s.settings.api.key r with
  | none => exact answerRoute_tells fresh route r
  | some refusal =>
    refine Gives.log.bind fun _ _ ↦ (answer_gives s.production _).bind fun response hstatus ↦ ?_
    exact .pure (.ofStatus (hstatus ▸ nofun))

theorem answerLimited_tells (fresh : Fresh) (route : Route) (r : Request) :
    Gives now (s.answerLimited fresh route r) fun o ↦ Says s route o.2 := by
  unfold answerLimited
  cases s.limiter.settings.enabled with
  | false => exact answerKeyed_tells fresh route r
  | true =>
    refine Gives.bind (P := fun _ ↦ True) ?_ ?_
    · exact Gives.clock.bind fun _ _ ↦ .pure trivial
    · rintro ⟨limiter, verdict⟩ -
      cases verdict with
      | allowed remaining limit resetAt =>
        refine Gives.count.bind fun _ _ ↦ ?_
        refine (answerKeyed_tells (s := { s with limiter }) fresh route r).bind fun o ho ↦ .pure ?_
        exact ho.headers (withHeaders_status _ _)
      | denied retryAfter limit resetAt =>
        refine Gives.count.bind fun _ _ ↦ Gives.log.bind fun _ _ ↦ ?_
        refine (answer_gives s.production _).bind fun response hstatus ↦ .pure (.ofStatus ?_)
        rw [withHeaders_status, hstatus]
        exact nofun

theorem answerBounded_tells (fresh : Fresh) (route : Route) (r : Request) :
    Gives now (s.answerBounded fresh route r) fun o ↦ Says s route o.2 := by
  unfold answerBounded
  cases isTooLong s.settings.server.bodyLimit r with
  | true => exact .pure (.ofStatus nofun)
  | false =>
    cases route.isProtected with
    | true => exact answerLimited_tells fresh route r
    | false => exact answerRoute_tells fresh route r

theorem answerTraced_tells (fresh : Fresh) (id : String) (route : Route) (r : Request) :
    Gives now (s.answerTraced fresh id route r) fun o ↦ Says s route o.2 := by
  refine Gives.within (Gives.log.bind fun _ _ ↦ ?_)
  refine (answerBounded_tells fresh route r).bind fun o ho ↦ ?_
  exact (report_gives o.2.status).bind fun _ _ ↦ .pure ho

theorem serve_tells (fresh : Fresh) (r : Request) :
    Gives now (s.serve fresh r) fun o ↦ Says s (Route.ofPath r.path) o.2 := by
  have hdressed {response : Response} (h : Says s (Route.ofPath r.path) response) :
      Says s (Route.ofPath r.path) (sentTo r
        ((response.withHeaders ((Route.ofPath r.path).allow r.method)).withHeader
          "x-request-id" (identify fresh r))) :=
    h.headers ((sentTo_status r _).trans (withHeaders_status _ response))
  unfold serve
  dsimp only
  split
  · exact .pure (hdressed (.ofStatus nofun))
  · refine (answerTraced_tells fresh _ (Route.ofPath r.path) r).bind fun o ho ↦ ?_
    exact .pure (hdressed (ho.headers (withHeaders_status _ _)))

/-- While a template has not been read, there is a file for it just if it is had when it is asked
for, or if the file holds no text; in that case it is not found. Where a service answers that
something is not implemented, a message was asked for with a template that is not configured. -/
theorem found_and_notImplemented :
    (∀ (d : Template.Desk) (key : String), d.library.kept.lookup (keptName key) = none →
      ((d.step (.ask (.has key))).2 = .found true ↔
        d.Has key ∨ checkKey key = .ok () ∧ d.files.Garbled (d.library.pathOf key)) ∧
      (checkKey key = .ok () → d.files.Garbled (d.library.pathOf key) →
        (d.step (.ask (.compile key))).2 = .refused (.notFound key))) ∧
    ∀ (s : Service) (fresh : Fresh) (r : Request) (journal : Journal),
      ((s.serve fresh r).run journal).1.2.status = 501 →
        ∃ segment key, Route.ofPath r.path = .email segment ∧
          Http.segmentText? segment = some key ∧ s.Lacks key := by
  refine ⟨fun d key hkept ↦ ⟨d.found_iff hkept, fun hkey ↦ d.reply_compile_garbled hkey hkept⟩, ?_⟩
  intro s fresh r journal
  exact (serve_tells fresh r journal rfl).1

/-- A file for a template that holds no text. -/
def garbledFiles : Files.Tree := { nodes := [(["note.hbs"], .file ⟨#[255]⟩)] }

/-- A desk with that file. -/
def garbledDesk : Template.Desk := { Template.Desk.noteDesk with files := garbledFiles }

/-- A service with that file. -/
def garbledService : Service := { noteService with files := garbledFiles }

theorem found_and_notImplemented_garbled :
    garbledDesk.library.kept.lookup (keptName "note") = none ∧
      (garbledDesk.step (.ask (.compile "note"))).2 = .refused (.notFound "note") ∧
      ((garbledService.serve ⟨"first", "1", "a"⟩ (noteRequest "secret")).run {}).1.2.status = 501 ∧
      garbledService.Lacks "note" := by
  obtain ⟨hdesk, hservice⟩ := found_and_notImplemented
  have hkept : garbledDesk.library.kept.lookup (keptName "note") = none := by decide +kernel
  have hstatus : ((garbledService.serve ⟨"first", "1", "a"⟩
      (noteRequest "secret")).run {}).1.2.status = 501 := by decide +kernel
  have hroute : Route.ofPath (noteRequest "secret").path = .email "note" := by decide +kernel
  have hkey : Http.segmentText? "note" = some "note" := by decide +kernel
  have hgarbled : garbledDesk.files.Garbled (garbledDesk.library.pathOf "note") :=
    ⟨⟨#[255]⟩, by decide +kernel, by decide +kernel⟩
  refine ⟨hkept, (hdesk _ _ hkept).2 (by decide +kernel) hgarbled, hstatus, ?_⟩
  obtain ⟨segment, key, hsegment, hread, hlacks⟩ := hservice _ _ _ _ hstatus
  obtain rfl : "note" = segment := Route.email.inj (hroute.symm.trans hsegment)
  obtain rfl : "note" = key := Option.some_inj.mp (hkey.symm.trans hread)
  exact hlacks

/-- There is a file for the template, but it is not found, and a request for it is answered as one
for a template that is not configured. -/
theorem garbled_found_and_refused :
    garbledDesk.library.kept.lookup (keptName "note") = none ∧
      garbledDesk.run [.ask (.has "note"), .ask (.compile "note")] =
        [.found true, .refused (.notFound "note")] ∧
      garbledService.files.isFile (garbledService.renderer.library.pathOf "note") = true ∧
      ((garbledService.serve ⟨"first", "1", "a"⟩ (noteRequest "secret")).run {}).1.2.status = 501 :=
  by decide +kernel

end Mailroom.Service
