import Mailroom.Proofs.Service.Admission

/-!
# Who may read the answers

The settings list origins whose pages may read what the service answers. What a service was set up
with does not change while it serves requests, so the list decides for every answer. An entry that
no header can hold is passed over, and a list of nothing but such entries counts as no list at all,
so that every origin is allowed (`exchanges_grant_iff`).
-/

namespace Mailroom.Service

open Http (IsHeaderText Origins Request)

variable {s : Service} {settings : Settings} {production : Bool} {files : Files.Tree}
  {renderer : Template.Renderer} {transport : Mail.Transport}

/-- Whatever is asked of a service, and in whatever order, its answers say of an origin what the
origins say that it was set up with. -/
theorem exchanges_grant (s : Service) (journal : Journal) (events : List Event) :
    ∀ x ∈ s.exchanges journal events, ∀ origin, x.request.header? "origin" = some origin →
      (x.response.Grants origin ↔ s.origins.Allows origin) := by
  induction events generalizing s journal with
  | nil =>
    intro x hx
    rw [exchanges] at hx
    exact absurd hx List.not_mem_nil
  | cons event events ih =>
    cases event with
    | clock now =>
      rw [exchanges]
      exact ih s _
    | request fresh r =>
      obtain ⟨⟨hsetup, hgrants⟩, -⟩ := serve_grants s fresh r journal rfl
      have horigins : ((s.serve fresh r).run journal).1.1.origins = s.origins :=
        congrArg (fun setup ↦ setup.2.2.1) hsetup
      rw [exchanges]
      intro x hx
      rcases List.mem_cons.mp hx with rfl | hx
      · exact hgrants
      · exact horigins ▸ ih _ _ x hx

/-- There is no service for a list that names the wildcard. -/
theorem new?_eq_none_iff :
    new? settings production files renderer transport = none ↔
      Origins.wildcard ∈ settings.server.corsOrigins := by
  rw [new?, Option.map_eq_none_iff, Origins.ofSettings?_eq_none_iff]

theorem ofSettings?_of_new? (h : new? settings production files renderer transport = some s) :
    Origins.ofSettings? settings.server.corsOrigins = some s.origins := by
  obtain ⟨origins, horigins, rfl⟩ := Option.map_eq_some_iff.mp h
  exact horigins

/-- For some settings there is a service unless their list of origins names the wildcard. Whatever
the service is asked, an answer allows the origin of the request just if the list has no entry that
a header can hold, or if the origin is one of these entries. -/
theorem exchanges_grant_iff (settings : Settings) (production : Bool) (files : Files.Tree)
    (renderer : Template.Renderer) (transport : Mail.Transport) :
    (new? settings production files renderer transport = none ↔
      Origins.wildcard ∈ settings.server.corsOrigins) ∧
    ∀ s, new? settings production files renderer transport = some s →
      ∀ (journal : Journal) (events : List Event), ∀ x ∈ s.exchanges journal events,
        ∀ origin, x.request.header? "origin" = some origin →
          (x.response.Grants origin ↔
            (∀ entry ∈ settings.server.corsOrigins, ¬IsHeaderText entry) ∨
              origin ∈ settings.server.corsOrigins ∧ IsHeaderText origin) := by
  refine ⟨new?_eq_none_iff, fun s hs journal events x hx origin horigin ↦ ?_⟩
  rw [exchanges_grant s journal events x hx origin horigin,
    Origins.allows_iff (ofSettings?_of_new? hs)]

/-- The service for a list of origins. -/
def pageService? (origins : List String) : Option Service :=
  new? { server := { corsOrigins := origins } } false noteService.files noteService.renderer
    noteService.transport

/-- A page of an origin asks for something that is not there. -/
def pageEvents (origin : String) : List Event :=
  [.request ⟨"first", "1", "a"⟩
    { method := "GET", path := "/nope", headers := [("origin", origin)] }]

theorem exists_pageExchange (s : Service) (origin : String) :
    ∃ x ∈ s.exchanges {} (pageEvents origin), x.request.header? "origin" = some origin := by
  rw [pageEvents, exchanges]
  exact ⟨_, List.mem_cons_self, rfl⟩

/-- Of two entries, one cannot stand in a header. The page of the other one may read its answer, and
the page of an origin that is not listed may not. -/
theorem exchanges_grant_iff_listed :
    ∃ s, pageService? ["https://a.example", "bad\nvalue"] = some s ∧
      (∃ x ∈ s.exchanges {} (pageEvents "https://a.example"),
        x.response.Grants "https://a.example") ∧
      ∃ x ∈ s.exchanges {} (pageEvents "https://b.example"),
        ¬x.response.Grants "https://b.example" := by
  obtain ⟨s, hs⟩ : ∃ s, pageService? ["https://a.example", "bad\nvalue"] = some s :=
    Option.isSome_iff_exists.mp (by decide +kernel)
  have hgrants := (exchanges_grant_iff _ _ _ _ _).2 s hs
  obtain ⟨x, hx, horigin⟩ := exists_pageExchange s "https://a.example"
  obtain ⟨y, hy, horigin'⟩ := exists_pageExchange s "https://b.example"
  exact ⟨s, hs, ⟨x, hx, (hgrants {} _ x hx _ horigin).mpr (by decide +kernel)⟩,
    y, hy, (hgrants {} _ y hy _ horigin').not.mpr (by decide +kernel)⟩

/-- A list whose only entry cannot stand in a header allows an origin that is not listed, and for a
list with the wildcard there is no service. -/
theorem exchanges_grant_unlisted :
    (∃ s, pageService? ["bad\nvalue"] = some s ∧
      ∃ x ∈ s.exchanges {} (pageEvents "http://a.example"),
        x.request.header? "origin" = some "http://a.example" ∧
          x.response.Grants "http://a.example") ∧
      pageService? [Origins.wildcard] = none := by
  refine ⟨?_, new?_eq_none_iff.mpr List.mem_cons_self⟩
  obtain ⟨s, hs⟩ : ∃ s, pageService? ["bad\nvalue"] = some s :=
    Option.isSome_iff_exists.mp (by decide +kernel)
  obtain ⟨x, hx, horigin⟩ := exists_pageExchange s "http://a.example"
  have hallows : s.origins.Allows "http://a.example" :=
    (Origins.allows_iff (ofSettings?_of_new? hs)).mpr (.inl (by decide +kernel))
  exact ⟨s, hs, x, hx, horigin, (exchanges_grant s {} _ x hx _ horigin).mpr hallows⟩

end Mailroom.Service
