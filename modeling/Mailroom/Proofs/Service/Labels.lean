import Mailroom.Proofs.Service.Upholding
import Mailroom.Proofs.Template.Stating

/-!
# Values of labels

Counts are told to others under labels, and each value that a label has had makes a series of its
own for as long as the service runs. Templates are counted under their keys, which are looked up
before anything is counted, and helpers, outcomes and the locales in which texts were found are
counted under names of the service's own. So what a request says never becomes the value of a label,
with one exception: a text that is taken from another locale is counted under the name by which it
was asked for, and that is the one that the message, or an object in its payload, states. Where only
names of locales are stated that there are, there is no exception.
-/

namespace Mailroom

/-! ## Labels -/

namespace Tally

/-- All values of labels that have been counted have a property. -/
def Within (P : List String → Prop) (t : Tally) : Prop := ∀ e ∈ t, P e.1

theorem Within.nil {P : List String → Prop} : Within P [] := List.forall_mem_nil _

theorem Within.increment {P : List String → Prop} {t : Tally} {values : List String}
    (h : t.Within P) (hvalues : P values) : (t.increment values).Within P := by
  induction t with
  | nil => exact List.forall_mem_singleton.mpr hvalues
  | cons e t ih =>
    obtain ⟨he, ht⟩ := List.forall_mem_cons.mp h
    rw [Tally.increment]
    split
    · exact List.forall_mem_cons.mpr ⟨he, ht⟩
    · exact List.forall_mem_cons.mpr ⟨he, ih ht⟩

end Tally

namespace Metrics

variable {keys names : String → Prop} {m : Metrics} {key : String}

/-- The labels of all counts in the families that are told to others, each with its value. -/
def labels (m : Metrics) : List (String × String) :=
  m.families.flatMap fun f ↦ f.counts.flatMap fun e ↦ f.labels.zip e.1

/-- The names of the outcomes that are counted. -/
def outcomes : List String := ["success", "failure", "sent", "failed"]

/-- Values under which the outcome of a template is counted. -/
def IsOutcome (keys : String → Prop) (values : List String) : Prop :=
  ∃ key, keys key ∧ ∃ outcome ∈ outcomes, values = [key, outcome]

/-- Templates have been counted under certain keys only, and texts have been asked for under certain
names only. -/
structure Labelled (keys names : String → Prop) (m : Metrics) : Prop where
  renders : m.renders.Within (IsOutcome keys)
  timedRenders : m.timedRenders.Within fun values ↦ ∃ key, keys key ∧ values = [key]
  sent : m.sent.Within (IsOutcome keys)
  emptyValues : m.emptyValues.Within fun values ↦ ∃ helper ∈ notingHelpers, values = [helper]
  fallbacks : m.fallbacks.Within fun values ↦
    ∃ name, names name ∧ ∃ origin : Locale, values = [name, origin.tag]

namespace Labelled

theorem empty : Labelled keys names {} := ⟨.nil, .nil, .nil, .nil, .nil⟩

theorem renderSucceeded (h : m.Labelled keys names) (hkey : keys key) :
    (m.renderSucceeded key).Labelled keys names :=
  { h with
    renders := h.renders.increment ⟨key, hkey, "success", by decide, rfl⟩
    timedRenders := h.timedRenders.increment ⟨key, hkey, rfl⟩ }

theorem renderFailed (h : m.Labelled keys names) (hkey : keys key) :
    (m.renderFailed key).Labelled keys names :=
  { h with renders := h.renders.increment ⟨key, hkey, "failure", by decide, rfl⟩ }

theorem delivered (h : m.Labelled keys names) (hkey : keys key) :
    (m.delivered key).Labelled keys names :=
  { h with sent := h.sent.increment ⟨key, hkey, "sent", by decide, rfl⟩ }

theorem deliveryFailed (h : m.Labelled keys names) (hkey : keys key) :
    (m.deliveryFailed key).Labelled keys names :=
  { h with sent := h.sent.increment ⟨key, hkey, "failed", by decide, rfl⟩ }

/-- Troubles are counted under the names of helpers, and under those under which texts are asked
for. -/
theorem allows : Metrics.Allows names (Labelled keys names) where
  emptyValue _ helper hhelper h :=
    { h with emptyValues := h.emptyValues.increment ⟨helper, hhelper, rfl⟩ }
  fellBack _ requested origin hname h :=
    { h with fallbacks := h.fallbacks.increment ⟨requested, hname, origin, rfl⟩ }
  textMissing _ h := { h with }

end Labelled

theorem mem_labels_iff {label : String × String} :
    label ∈ m.labels ↔
      (∃ e ∈ m.emptyValues, label ∈ ["helper"].zip e.1) ∨
      (∃ e ∈ m.timedRenders, label ∈ ["template"].zip e.1) ∨
      (∃ e ∈ m.renders, label ∈ ["outcome", "template"].zip e.1.reverse) ∨
      (∃ e ∈ m.sent, label ∈ ["outcome", "template"].zip e.1.reverse) ∨
      ∃ e ∈ m.fallbacks, label ∈ ["requested", "resolved"].zip e.1 := by
  have hreversed (t : Tally) : (∃ e ∈ byOutcome t, label ∈ ["outcome", "template"].zip e.1) ↔
      ∃ e ∈ t, label ∈ ["outcome", "template"].zip e.1.reverse := by
    simp only [byOutcome, List.mem_map, exists_exists_and_eq_and]
  simp only [labels, families, List.mem_flatMap, List.exists_mem_cons_iff, List.not_mem_nil,
    List.zip_nil_left, false_and, and_false, exists_false, false_or, or_false, hreversed]

/-- The value of a label is a key, an outcome, the name of a helper or of a locale, or a name under
which a text was asked for. -/
theorem Labelled.of_mem_labels (h : m.Labelled keys names) {label : String × String}
    (hlabel : label ∈ m.labels) :
    keys label.2 ∨ label.2 ∈ outcomes ∨ label.2 ∈ notingHelpers ∨
      (∃ origin : Locale, label.2 = origin.tag) ∨ label.1 = "requested" ∧ names label.2 := by
  have houtcome {values : List String} (hvalues : IsOutcome keys values)
      (hlabel : label ∈ ["outcome", "template"].zip values.reverse) :
      keys label.2 ∨ label.2 ∈ outcomes := by
    obtain ⟨key, hkey, outcome, houtcome, rfl⟩ := hvalues
    rcases List.mem_pair.mp hlabel with rfl | rfl
    · exact .inr houtcome
    · exact .inl hkey
  rcases mem_labels_iff.mp hlabel with
    ⟨e, he, hlabel⟩ | ⟨e, he, hlabel⟩ | ⟨e, he, hlabel⟩ | ⟨e, he, hlabel⟩ | ⟨e, he, hlabel⟩
  · obtain ⟨helper, hhelper, hvalues⟩ := h.emptyValues e he
    rw [hvalues] at hlabel
    obtain rfl := List.mem_singleton.mp hlabel
    exact .inr (.inr (.inl hhelper))
  · obtain ⟨key, hkey, hvalues⟩ := h.timedRenders e he
    rw [hvalues] at hlabel
    obtain rfl := List.mem_singleton.mp hlabel
    exact .inl hkey
  · exact (houtcome (h.renders e he) hlabel).imp_right .inl
  · exact (houtcome (h.sent e he) hlabel).imp_right .inl
  · obtain ⟨name, hname, origin, hvalues⟩ := h.fallbacks e he
    rw [hvalues] at hlabel
    rcases List.mem_pair.mp hlabel with rfl | rfl
    · exact .inr (.inr (.inr (.inr ⟨rfl, hname⟩)))
    · exact .inr (.inr (.inr (.inl ⟨origin, rfl⟩)))

end Metrics

/-! ## Services -/

/-- A submission names no locales but some, neither for the message nor in its payload. -/
def Submission.StatesOnly (names : List String) (submission : Submission) : Prop :=
  (submission.locale = "" ∨ submission.locale ∈ names) ∧
    Template.MembersStateOnly names submission.payload

instance (names : List String) : DecidablePred (Submission.StatesOnly names) := fun _ ↦
  inferInstanceAs (Decidable (_ ∧ ∀ m ∈ _, Template.statesOnly names _ = true))

namespace Service

open Http (Request)
open Journal (answerAt)

variable {s : Service} {names : List String}

/-- What a service knows from the start: the keys of the templates that it has sources for, and the
names of locales, outcomes and helpers. -/
def Knows (s : Service) (value : String) : Prop :=
  s.Offers value ∨ value ∈ Locale.all.map Locale.tag ∨ value ∈ Metrics.outcomes ∨
    value ∈ Metrics.notingHelpers

instance (s : Service) (value : String) : Decidable (s.Knows value) :=
  inferInstanceAs (Decidable (_ ∨ _))

/-- The texts, the library and the files of a service name no locales but some. -/
structure StatesOnly (names : List String) (s : Service) : Prop where
  texts : ∀ l, Template.statesOnly names (s.renderer.store.bundle l).document = true
  library : s.renderer.library.StatesOnly names
  sources : Template.SourcesStateOnly names s.files

/-- Templates are counted under keys that the service has sources for, whatever names texts are
asked for under. -/
theorem counting_labelled {asked : String → Prop} :
    Counting s (Metrics.Labelled s.Offers asked) where
  requestAllowed _ h := { h with }
  requestDenied _ h := { h with }
  cached _ _ h := { h with }
  compiled _ _ h := { h with }
  renderSucceeded _ _ hkey h := h.renderSucceeded hkey
  renderFailed _ _ hkey h := h.renderFailed hkey
  delivered _ _ hkey h := h.delivered hkey
  deliveryFailed _ _ hkey h := h.deliveryFailed hkey

/-- Whatever a service is asked, templates are counted under keys that it has sources for. -/
theorem rules_labelled :
    Rules s (fun _ ↦ True) (fun _ ↦ True) (Metrics.Labelled s.Offers fun _ ↦ True) :=
  { counting_labelled with
    fetched := fun _ _ _ _ _ _ ↦ trivial
    cleared := fun _ _ ↦ trivial
    shown := fun r _ t library _ _ _ _ _ _ ↦
      .ofNotes Metrics.Labelled.allows (Template.Renderer.page_notes { r with library } t _) }

/-- Where no locales are named but some, texts are asked for under their names. -/
theorem StatesOnly.rules_labelled (h : s.StatesOnly names) :
    Rules s (Submission.StatesOnly names) (Template.Library.StatesOnly names)
      (Metrics.Labelled s.Offers (· ∈ names)) :=
  { counting_labelled with
    fetched := fun _ _ _ _ hlibrary hfetched ↦ (hlibrary.fetched h.sources hfetched).2
    cleared := fun _ hlibrary ↦ hlibrary.cleared h.sources
    shown := by
      rintro r key t library submission now hstore hlibrary hfetched ⟨hlocale, hpayload⟩
      obtain ⟨ht, hlibrary'⟩ := hlibrary.fetched h.sources hfetched
      have hcontext : Template.statesOnly names
          (answerAt now (r.context submission.locale submission.payload)) = true :=
        Template.Renderer.statesOnly_context (hstore ▸ h.texts) hlocale hpayload now
      exact Template.Renderer.page_upholds (r := { r with library }) Metrics.Labelled.allows
        hlibrary' hcontext ht }

theorem Knows.of_labelled {asked : String → Prop} {m : Metrics}
    (h : m.Labelled s.Offers asked) {label : String × String} (hlabel : label ∈ m.labels) :
    s.Knows label.2 ∨ label.1 = "requested" ∧ asked label.2 := by
  rcases h.of_mem_labels hlabel with hkey | houtcome | hhelper | ⟨origin, horigin⟩ | hasked
  · exact .inl (.inl hkey)
  · exact .inl (.inr (.inr (.inl houtcome)))
  · exact .inl (.inr (.inr (.inr hhelper)))
  · refine .inl (.inr (.inl (List.mem_map.mpr ⟨origin, ?_, horigin.symm⟩)))
    cases origin <;> decide
  · exact .inr hasked

/-- Every value of a label is known from the start, unless it is the name by which a text was asked
for that was taken from another locale. That name is one of those that the service or the
submissions state; so if these are all known, so is every value of a label. -/
theorem labels_known (s : Service) {journal : Journal} (events : List Event)
    (hmetrics : journal.metrics = {}) :
    let labels := (s.behind journal events).2.metrics.labels
    (∀ label ∈ labels, s.Knows label.2 ∨ label.1 = "requested") ∧
      ∀ names, s.StatesOnly names →
        (∀ fresh r, .request fresh r ∈ events → s.TakesOnly (Submission.StatesOnly names) r) →
        (∀ label ∈ labels, s.Knows label.2 ∨ label.1 = "requested" ∧ label.2 ∈ names) ∧
          ((∀ name ∈ names, s.Knows name) → ∀ label ∈ labels, s.Knows label.2) := by
  have hbegin {K : Template.Library → Prop} {asked : String → Prop}
      (hlibrary : K s.renderer.library) :
      Upheld s K (Metrics.Labelled s.Offers asked) s journal.metrics :=
    ⟨rfl, rfl, rfl, rfl, hlibrary, hmetrics ▸ .empty⟩
  refine ⟨fun label hlabel ↦ ?_, fun names hs hevents ↦ ?_⟩
  · have hevents : ∀ fresh r, .request fresh r ∈ events → s.TakesOnly (fun _ ↦ True) r :=
      fun _ _ _ _ _ ↦ trivial
    have hbehind := rules_labelled.behind hevents (hbegin trivial)
    exact (Knows.of_labelled hbehind.metrics hlabel).imp_right And.left
  · have hbehind := hs.rules_labelled.behind hevents (hbegin hs.library)
    refine ⟨fun label hlabel ↦ Knows.of_labelled hbehind.metrics hlabel,
      fun hnames label hlabel ↦ ?_⟩
    rcases Knows.of_labelled hbehind.metrics hlabel with hknown | ⟨-, hasked⟩
    · exact hknown
    · exact hnames _ hasked

/-- A service with a template that greets, and with a greeting in English only. -/
def greetingService : Service where
  settings := { api := { key := some "secret" } }
  origins := .any
  files := Template.Renderer.greetingAlone
  renderer := {
    library := { dir := "", partsDir := "partials" }
    store := ⟨fun l ↦ {
      layout := none
      subjects := []
      document := .obj (if l = .en then [("greeting", .str "Hello")] else []) }⟩ }
  transport := .memory {}
  limiter := { settings := {} }

/-- A request to greet somebody in a locale. -/
def greetingRequest (locale : String) : Request where
  method := "POST"
  path := "/api/email/welcome"
  headers := [("authorization", "Bearer secret"), ("content-type", "application/json")]
  body := "\x7b\"to\": [\"ann@example.org\"], \"subject\": \"Hi\", \"locale\": \"" ++ locale ++
    "\"\x7d"

/-- Somebody is to be greeted in Arabic, and is greeted in English. -/
theorem labels_known_arabic :
    let labels := (greetingService.behind {}
      [.request ⟨"first", "1", "a"⟩ (greetingRequest "ar")]).2.metrics.labels
    ("requested", "ar") ∈ labels ∧ ∀ label ∈ labels, greetingService.Knows label.2 := by
  have hstates : greetingService.StatesOnly (Locale.all.map Locale.tag) := by
    refine ⟨fun l ↦ ?_, List.forall_mem_nil _, Template.sourcesStateOnly_of_files ?_⟩
    · cases l <;> decide
    · decide +kernel
  have htakes : ∀ fresh r,
      .request fresh r ∈ [Event.request ⟨"first", "1", "a"⟩ (greetingRequest "ar")] →
        greetingService.TakesOnly (Submission.StatesOnly (Locale.all.map Locale.tag)) r := by
    intro fresh r hr
    cases List.mem_singleton.mp hr
    decide +kernel
  obtain ⟨-, hlabels⟩ := labels_known greetingService
    [.request ⟨"first", "1", "a"⟩ (greetingRequest "ar")]
    (show ({} : Journal).metrics = {} from rfl)
  obtain ⟨-, hknown⟩ := hlabels _ hstates htakes
  exact ⟨by decide +kernel, hknown fun name hname ↦ .inr (.inl hname)⟩

/-- What a request gives for a locale becomes the value of a label, though there is no such
locale. -/
theorem labels_unknown :
    let labels := (greetingService.behind {}
      [.request ⟨"first", "1", "a"⟩ (greetingRequest "xx")]).2.metrics.labels
    ("requested", "xx") ∈ labels ∧ ¬greetingService.Knows "xx" := by
  decide +kernel

end Service

end Mailroom
