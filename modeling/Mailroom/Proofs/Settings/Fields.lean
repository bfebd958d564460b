import Mailroom.Proofs.Journal
import Mailroom.Settings.Load
import Mathlib.Logic.Function.Basic

/-!
# The single settings

Every setting is read on its own: settings are taken from a document exactly if each of them is what
stands in the document under its name in the section of its group, or what is usual
(`settings_eq_ok_iff`).
-/

namespace Mailroom.Settings

/-- The groups of settings. Each of them has a section. -/
inductive Group where
  | server | api | smtp | templates | rate | log | trace
deriving DecidableEq

/-- The single settings. -/
inductive Field where
  | serverHost | serverPort | corsOrigins | bodyLimit
  | apiKey
  | transport | smtpHost | smtpPort | username | password | secure | sender | senderName
  | templateDir | partDir | localeDir | logo | contentId
  | limited | requests | window | cleanupInterval | recordLifetime
  | logFormat
  | traced | endpoint | serviceName | samplingRatio
deriving DecidableEq

/-- What a setting is set to. -/
inductive Value where
  | absent
  | text (value : String)
  | flag (value : Bool)
  | number (value : Nat)
  | fraction (value : Float)
  | texts (values : List String)

/-- A text that may be absent. -/
def Value.ofText? : Option String → Value
  | none => .absent
  | some s => .text s

/-- What may stand for a setting. -/
inductive Kind where
  | text | optionalText | flag | natural (width : Nat) | fraction | texts
deriving DecidableEq

/-- What a value in a document stands for. -/
def Kind.read : Kind → Node → Except Fault Value
  | .text, v => v.text.map .text
  | .optionalText, v => (Node.dialect.optional Node.text v).map .ofText?
  | .flag, v => v.flag.map .flag
  | .natural width, v => (v.natural width).map .number
  | .fraction, v => v.fraction.map .fraction
  | .texts, v => v.texts.map .texts

namespace Group

/-- The name of the section. -/
def name : Group → String
  | server => "server"
  | api => "api"
  | smtp => "smtp"
  | templates => "templates"
  | rate => "ratelimit"
  | log => "log"
  | trace => "otel"

/-- The entries of the section, which is what stands under its name. -/
def entries : Group → Node → Except Fault (List (String × Node))
  | server =>
    Node.sectionEntries "ServerConfig" ["host", "port", "cors_origins", "body_limit_bytes"] 0
  | api => Node.sectionEntries "ApiConfig" ["key"] 1
  | smtp => Node.sectionEntries "SmtpConfig"
      ["transport", "host", "port", "username", "password", "secure", "from", "from_name"] 0
  | templates =>
    Node.sectionEntries "TemplatesConfig" ["dir", "partials", "locales", "logo", "cid"] 0
  | rate => Node.sectionEntries "RateLimitConfig"
      ["enabled", "requests", "window", "cleanup_interval_seconds", "bucket_ttl_seconds"] 0
  | log => Node.sectionEntries "LogConfig" ["format"] 0
  | trace =>
    Node.sectionEntries "OtelConfig" ["enabled", "endpoint", "service_name", "sampling_ratio"] 0

/-- The entries of the section of a document. -/
def read (g : Group) (document : List (String × Node)) : Except Fault (List (String × Node)) :=
  g.entries ((document.lookup g.name).getD Node.empty)

end Group

/-- The value of a setting. -/
def value (s : Settings) : Field → Value
  | .serverHost => .text s.server.host
  | .serverPort => .number s.server.port
  | .corsOrigins => .texts s.server.corsOrigins
  | .bodyLimit => .number s.server.bodyLimit
  | .apiKey => .ofText? s.api.key
  | .transport => .text s.smtp.transport
  | .smtpHost => .text s.smtp.host
  | .smtpPort => .number s.smtp.port
  | .username => .ofText? s.smtp.username
  | .password => .ofText? s.smtp.password
  | .secure => .flag s.smtp.secure
  | .sender => .text s.smtp.sender
  | .senderName => .ofText? s.smtp.senderName
  | .templateDir => .text s.templates.dir
  | .partDir => .ofText? s.templates.parts
  | .localeDir => .text s.templates.locales
  | .logo => .text s.templates.logo
  | .contentId => .text s.templates.contentId
  | .limited => .flag s.rate.enabled
  | .requests => .number s.rate.requests
  | .window => .number s.rate.window
  | .cleanupInterval => .number s.rate.cleanupInterval
  | .recordLifetime => .number s.rate.recordLifetime
  | .logFormat => .text s.log.format
  | .traced => .flag s.trace.enabled
  | .endpoint => .text s.trace.endpoint
  | .serviceName => .text s.trace.serviceName
  | .samplingRatio => .fraction s.trace.samplingRatio

namespace Field

/-- The group that a setting belongs to. -/
def group : Field → Group
  | serverHost | serverPort | corsOrigins | bodyLimit => .server
  | apiKey => .api
  | transport | smtpHost | smtpPort | username | password | secure | sender | senderName => .smtp
  | templateDir | partDir | localeDir | logo | contentId => .templates
  | limited | requests | window | cleanupInterval | recordLifetime => .rate
  | logFormat => .log
  | traced | endpoint | serviceName | samplingRatio => .trace

/-- The name of a setting in its section. -/
def name : Field → String
  | serverHost => "host"
  | serverPort => "port"
  | corsOrigins => "cors_origins"
  | bodyLimit => "body_limit_bytes"
  | apiKey => "key"
  | transport => "transport"
  | smtpHost => "host"
  | smtpPort => "port"
  | username => "username"
  | password => "password"
  | secure => "secure"
  | sender => "from"
  | senderName => "from_name"
  | templateDir => "dir"
  | partDir => "partials"
  | localeDir => "locales"
  | logo => "logo"
  | contentId => "cid"
  | limited => "enabled"
  | requests => "requests"
  | window => "window"
  | cleanupInterval => "cleanup_interval_seconds"
  | recordLifetime => "bucket_ttl_seconds"
  | logFormat => "format"
  | traced => "enabled"
  | endpoint => "endpoint"
  | serviceName => "service_name"
  | samplingRatio => "sampling_ratio"

/-- What may stand for a setting. -/
def kind : Field → Kind
  | serverPort | smtpPort => .natural 16
  | requests => .natural 32
  | bodyLimit | window | cleanupInterval | recordLifetime => .natural 64
  | secure | limited | traced => .flag
  | apiKey | username | password | senderName | partDir => .optionalText
  | corsOrigins => .texts
  | samplingRatio => .fraction
  | _ => .text

/-- The value that holds if nothing is set. -/
def usual : Field → Value := value {}

/-- The value of a setting by the entries of a section. -/
def readIn (f : Field) (es : List (String × Node)) : Except Fault Value :=
  match es.lookup f.name with
  | none => .ok f.usual
  | some v => f.kind.read v

/-- The value of a setting by a document. -/
def read (f : Field) (document : List (String × Node)) : Except Fault Value :=
  f.group.read document >>= f.readIn

end Field

/-! ## Reading one by one -/

theorem exists_of_isOk {ε α : Type} {x : Except ε α} (h : x.isOk = true) : ∃ a, x = .ok a := by
  cases x with
  | error e => cases h
  | ok a => exact ⟨a, rfl⟩

theorem map_eq_ok {ε α β : Type} {x : Except ε α} {wrap : α → β} {b : β} :
    x.map wrap = .ok b ↔ ∃ a, x = .ok a ∧ wrap a = b := by
  cases x with
  | error e => exact iff_of_false nofun nofun
  | ok a => simp [Except.map]

theorem mapError_eq_ok {ε ε' α : Type} {x : Except ε α} {wrap : ε → ε'} {a : α} :
    x.mapError wrap = .ok a ↔ x = .ok a := by
  cases x with
  | error e => exact iff_of_false nofun nofun
  | ok b =>
    exact ⟨fun h ↦ congrArg _ (Except.ok.inj h), fun h ↦ congrArg Except.ok (Except.ok.inj h)⟩

variable {β : Type} {es : List (String × Node)} {s : Settings} {v : Node}

/-- The settings of a group. -/
def Group.fields : Group → List Field
  | .server => [.serverHost, .serverPort, .corsOrigins, .bodyLimit]
  | .api => [.apiKey]
  | .smtp => [.transport, .smtpHost, .smtpPort, .username, .password, .secure, .sender, .senderName]
  | .templates => [.templateDir, .partDir, .localeDir, .logo, .contentId]
  | .rate => [.limited, .requests, .window, .cleanupInterval, .recordLifetime]
  | .log => [.logFormat]
  | .trace => [.traced, .endpoint, .serviceName, .samplingRatio]

theorem Field.mem_fields (f : Field) : f ∈ f.group.fields := by cases f <;> decide

theorem Group.group_eq {g : Group} {f : Field} (h : f ∈ g.fields) : f.group = g := by
  have hall : ∀ f ∈ g.fields, f.group = g := by cases g <;> decide
  exact hall f h

theorem Group.fields_ne_nil (g : Group) : g.fields ≠ [] := by cases g <;> decide

/-- An entry is read as the value of a setting. -/
theorem entry_eq_ok_iff (f : Field) {read : Node → Except Fault β} {usual x : β} {wrap : β → Value}
    (hwrap : wrap.Injective) (hread : ∀ v, f.kind.read v = (read v).map wrap)
    (husual : f.usual = wrap usual) :
    Node.dialect.entry es f.name read usual = .ok x ↔ f.readIn es = .ok (wrap x) := by
  rw [Dialect.entry, Field.readIn]
  cases es.lookup f.name with
  | none => simp [husual, hwrap.eq_iff]
  | some v => simp [hread, mapError_eq_ok, map_eq_ok, hwrap.eq_iff]

section Entries

variable (f : Field)

theorem text_entry_iff {usual x : String} (hkind : f.kind = .text)
    (husual : f.usual = .text usual) :
    Node.dialect.entry es f.name Node.dialect.text usual = .ok x ↔ f.readIn es = .ok (.text x) :=
  entry_eq_ok_iff f (fun _ _ ↦ Value.text.inj) (fun _ ↦ hkind ▸ rfl) husual

theorem optionalText_entry_iff {usual x : Option String} (hkind : f.kind = .optionalText)
    (husual : f.usual = .ofText? usual) :
    Node.dialect.entry es f.name (Node.dialect.optional Node.dialect.text) usual = .ok x ↔
      f.readIn es = .ok (.ofText? x) := by
  refine entry_eq_ok_iff f ?_ (fun _ ↦ hkind ▸ rfl) husual
  rintro (_ | x) (_ | y) h
  · rfl
  · cases h
  · cases h
  · exact congrArg some (Value.text.inj h)

theorem flag_entry_iff {usual x : Bool} (hkind : f.kind = .flag) (husual : f.usual = .flag usual) :
    Node.dialect.entry es f.name Node.dialect.flag usual = .ok x ↔ f.readIn es = .ok (.flag x) :=
  entry_eq_ok_iff f (fun _ _ ↦ Value.flag.inj) (fun _ ↦ hkind ▸ rfl) husual

theorem natural_entry_iff {width usual x : Nat} {expected : String}
    (hkind : f.kind = .natural width) (husual : f.usual = .number usual) :
    Node.dialect.entry es f.name (Node.dialect.natural width expected) usual = .ok x ↔
      f.readIn es = .ok (.number x) :=
  entry_eq_ok_iff f (fun _ _ ↦ Value.number.inj) (fun _ ↦ hkind ▸ rfl) husual

theorem fraction_entry_iff {usual x : Float} (hkind : f.kind = .fraction)
    (husual : f.usual = .fraction usual) :
    Node.dialect.entry es f.name Node.dialect.fraction usual = .ok x ↔
      f.readIn es = .ok (.fraction x) :=
  entry_eq_ok_iff f (fun _ _ ↦ Value.fraction.inj) (fun _ ↦ hkind ▸ rfl) husual

theorem texts_entry_iff {usual x : List String} (hkind : f.kind = .texts)
    (husual : f.usual = .texts usual) :
    Node.dialect.entry es f.name Node.dialect.texts usual = .ok x ↔ f.readIn es = .ok (.texts x) :=
  entry_eq_ok_iff f (fun _ _ ↦ Value.texts.inj) (fun _ ↦ hkind ▸ rfl) husual

end Entries

/-- The settings of a group are taken from the entries of its section, each on its own. -/
def Group.Reads (g : Group) (s : Settings) (es : List (String × Node)) : Prop :=
  ∀ f ∈ g.fields, f.readIn es = .ok (s.value f)

theorem server_eq_ok_iff : Node.dialect.server v = .ok s.server ↔
    ∃ es, Group.server.entries v = .ok es ∧ Group.server.Reads s es := by
  simp only [Dialect.server, bind_eq_ok, Group.Reads, Group.fields, List.forall_mem_cons]
  constructor
  · obtain ⟨server, api, smtp, templates, rate, log, trace⟩ := s
    rintro ⟨es, hes, _, hhost, _, hport, _, hcorsOrigins, _, hbodyLimit, ⟨⟩⟩
    exact ⟨es, hes, (text_entry_iff .serverHost rfl rfl).mp hhost,
      (natural_entry_iff .serverPort rfl rfl).mp hport,
      (texts_entry_iff .corsOrigins rfl rfl).mp hcorsOrigins,
      (natural_entry_iff .bodyLimit rfl rfl).mp hbodyLimit, nofun⟩
  · rintro ⟨es, hes, hhost, hport, hcorsOrigins, hbodyLimit, -⟩
    exact ⟨es, hes, _, (text_entry_iff .serverHost rfl rfl).mpr hhost,
      _, (natural_entry_iff .serverPort rfl rfl).mpr hport,
      _, (texts_entry_iff .corsOrigins rfl rfl).mpr hcorsOrigins,
      _, (natural_entry_iff .bodyLimit rfl rfl).mpr hbodyLimit, rfl⟩

theorem api_eq_ok_iff : Node.dialect.api v = .ok s.api ↔
    ∃ es, Group.api.entries v = .ok es ∧ Group.api.Reads s es := by
  simp only [Dialect.api, bind_eq_ok, Group.Reads, Group.fields, List.forall_mem_cons]
  constructor
  · obtain ⟨server, api, smtp, templates, rate, log, trace⟩ := s
    rintro ⟨es, hes, _, hkey, ⟨⟩⟩
    exact ⟨es, hes, (optionalText_entry_iff .apiKey rfl rfl).mp hkey, nofun⟩
  · rintro ⟨es, hes, hkey, -⟩
    exact ⟨es, hes, _, (optionalText_entry_iff .apiKey rfl rfl).mpr hkey, rfl⟩

theorem smtp_eq_ok_iff : Node.dialect.smtp v = .ok s.smtp ↔
    ∃ es, Group.smtp.entries v = .ok es ∧ Group.smtp.Reads s es := by
  simp only [Dialect.smtp, bind_eq_ok, Group.Reads, Group.fields, List.forall_mem_cons]
  constructor
  · obtain ⟨server, api, smtp, templates, rate, log, trace⟩ := s
    rintro ⟨es, hes, _, htransport, _, hhost, _, hport, _, husername, _, hpassword, _, hsecure,
      _, hsender, _, hsenderName, ⟨⟩⟩
    exact ⟨es, hes, (text_entry_iff .transport rfl rfl).mp htransport,
      (text_entry_iff .smtpHost rfl rfl).mp hhost, (natural_entry_iff .smtpPort rfl rfl).mp hport,
      (optionalText_entry_iff .username rfl rfl).mp husername,
      (optionalText_entry_iff .password rfl rfl).mp hpassword,
      (flag_entry_iff .secure rfl rfl).mp hsecure, (text_entry_iff .sender rfl rfl).mp hsender,
      (optionalText_entry_iff .senderName rfl rfl).mp hsenderName, nofun⟩
  · rintro ⟨es, hes, htransport, hhost, hport, husername, hpassword, hsecure, hsender, hsenderName,
      -⟩
    exact ⟨es, hes, _, (text_entry_iff .transport rfl rfl).mpr htransport,
      _, (text_entry_iff .smtpHost rfl rfl).mpr hhost,
      _, (natural_entry_iff .smtpPort rfl rfl).mpr hport,
      _, (optionalText_entry_iff .username rfl rfl).mpr husername,
      _, (optionalText_entry_iff .password rfl rfl).mpr hpassword,
      _, (flag_entry_iff .secure rfl rfl).mpr hsecure,
      _, (text_entry_iff .sender rfl rfl).mpr hsender,
      _, (optionalText_entry_iff .senderName rfl rfl).mpr hsenderName, rfl⟩

theorem templates_eq_ok_iff : Node.dialect.templates v = .ok s.templates ↔
    ∃ es, Group.templates.entries v = .ok es ∧ Group.templates.Reads s es := by
  simp only [Dialect.templates, bind_eq_ok, Group.Reads, Group.fields, List.forall_mem_cons]
  constructor
  · obtain ⟨server, api, smtp, templates, rate, log, trace⟩ := s
    rintro ⟨es, hes, _, hdir, _, hparts, _, hlocales, _, hlogo, _, hcontentId, ⟨⟩⟩
    exact ⟨es, hes, (text_entry_iff .templateDir rfl rfl).mp hdir,
      (optionalText_entry_iff .partDir rfl rfl).mp hparts,
      (text_entry_iff .localeDir rfl rfl).mp hlocales, (text_entry_iff .logo rfl rfl).mp hlogo,
      (text_entry_iff .contentId rfl rfl).mp hcontentId, nofun⟩
  · rintro ⟨es, hes, hdir, hparts, hlocales, hlogo, hcontentId, -⟩
    exact ⟨es, hes, _, (text_entry_iff .templateDir rfl rfl).mpr hdir,
      _, (optionalText_entry_iff .partDir rfl rfl).mpr hparts,
      _, (text_entry_iff .localeDir rfl rfl).mpr hlocales,
      _, (text_entry_iff .logo rfl rfl).mpr hlogo,
      _, (text_entry_iff .contentId rfl rfl).mpr hcontentId, rfl⟩

theorem rate_eq_ok_iff : Node.dialect.rate v = .ok s.rate ↔
    ∃ es, Group.rate.entries v = .ok es ∧ Group.rate.Reads s es := by
  simp only [Dialect.rate, bind_eq_ok, Group.Reads, Group.fields, List.forall_mem_cons]
  constructor
  · obtain ⟨server, api, smtp, templates, rate, log, trace⟩ := s
    rintro ⟨es, hes, _, henabled, _, hrequests, _, hwindow, _, hcleanupInterval, _, hrecordLifetime,
      ⟨⟩⟩
    exact ⟨es, hes, (flag_entry_iff .limited rfl rfl).mp henabled,
      (natural_entry_iff .requests rfl rfl).mp hrequests,
      (natural_entry_iff .window rfl rfl).mp hwindow,
      (natural_entry_iff .cleanupInterval rfl rfl).mp hcleanupInterval,
      (natural_entry_iff .recordLifetime rfl rfl).mp hrecordLifetime, nofun⟩
  · rintro ⟨es, hes, henabled, hrequests, hwindow, hcleanupInterval, hrecordLifetime, -⟩
    exact ⟨es, hes, _, (flag_entry_iff .limited rfl rfl).mpr henabled,
      _, (natural_entry_iff .requests rfl rfl).mpr hrequests,
      _, (natural_entry_iff .window rfl rfl).mpr hwindow,
      _, (natural_entry_iff .cleanupInterval rfl rfl).mpr hcleanupInterval,
      _, (natural_entry_iff .recordLifetime rfl rfl).mpr hrecordLifetime, rfl⟩

theorem log_eq_ok_iff : Node.dialect.log v = .ok s.log ↔
    ∃ es, Group.log.entries v = .ok es ∧ Group.log.Reads s es := by
  simp only [Dialect.log, bind_eq_ok, Group.Reads, Group.fields, List.forall_mem_cons]
  constructor
  · obtain ⟨server, api, smtp, templates, rate, log, trace⟩ := s
    rintro ⟨es, hes, _, hformat, ⟨⟩⟩
    exact ⟨es, hes, (text_entry_iff .logFormat rfl rfl).mp hformat, nofun⟩
  · rintro ⟨es, hes, hformat, -⟩
    exact ⟨es, hes, _, (text_entry_iff .logFormat rfl rfl).mpr hformat, rfl⟩

theorem trace_eq_ok_iff : Node.dialect.trace v = .ok s.trace ↔
    ∃ es, Group.trace.entries v = .ok es ∧ Group.trace.Reads s es := by
  simp only [Dialect.trace, bind_eq_ok, Group.Reads, Group.fields, List.forall_mem_cons]
  constructor
  · obtain ⟨server, api, smtp, templates, rate, log, trace⟩ := s
    rintro ⟨es, hes, _, henabled, _, hendpoint, _, hserviceName, _, hsamplingRatio, ⟨⟩⟩
    exact ⟨es, hes, (flag_entry_iff .traced rfl rfl).mp henabled,
      (text_entry_iff .endpoint rfl rfl).mp hendpoint,
      (text_entry_iff .serviceName rfl rfl).mp hserviceName,
      (fraction_entry_iff .samplingRatio rfl rfl).mp hsamplingRatio, nofun⟩
  · rintro ⟨es, hes, henabled, hendpoint, hserviceName, hsamplingRatio, -⟩
    exact ⟨es, hes, _, (flag_entry_iff .traced rfl rfl).mpr henabled,
      _, (text_entry_iff .endpoint rfl rfl).mpr hendpoint,
      _, (text_entry_iff .serviceName rfl rfl).mpr hserviceName,
      _, (fraction_entry_iff .samplingRatio rfl rfl).mpr hsamplingRatio, rfl⟩

/-! ## All settings -/

/-- A section is taken for the settings of its group, or these are as usual without it. -/
theorem section_eq_ok_iff (g : Group) {take : Node → Except Fault β} {usual x : β}
    (htake : ∀ v, take v = .ok x ↔ ∃ es, g.entries v = .ok es ∧ g.Reads s es)
    (husual : take Node.empty = .ok usual) :
    Node.dialect.entry es g.name take usual = .ok x ↔
      ∃ ses, g.read es = .ok ses ∧ g.Reads s ses := by
  rw [Dialect.entry, Group.read]
  cases es.lookup g.name with
  | none => rw [Option.getD_none, ← htake, husual]
  | some v => rw [Option.getD_some, ← htake]; exact mapError_eq_ok

theorem reads_iff (g : Group) : (∃ ses, g.read es = .ok ses ∧ g.Reads s ses) ↔
    ∀ f ∈ g.fields, f.read es = .ok (s.value f) := by
  have hread {f : Field} (hf : f ∈ g.fields) : f.read es = g.read es >>= f.readIn := by
    rw [Field.read, Group.group_eq hf]
  constructor
  · rintro ⟨ses, hses, hreads⟩ f hf
    rw [hread hf, hses]
    exact hreads f hf
  · intro h
    cases hses : g.read es with
    | error e =>
      obtain ⟨f, hf⟩ := List.exists_mem_of_ne_nil _ g.fields_ne_nil
      have herror := h f hf
      rw [hread hf, hses] at herror
      cases herror
    | ok ses =>
      refine ⟨ses, rfl, fun f hf ↦ ?_⟩
      have hok := h f hf
      rwa [hread hf, hses] at hok

/-- The settings of a document are those that are read from it one by one. -/
theorem settings_eq_ok_iff {source : Option String} :
    Node.dialect.settings (.table source es) = .ok s ↔
      ∀ f : Field, f.read es = .ok (s.value f) := by
  have hall : (∀ f : Field, f.read es = .ok (s.value f)) ↔
      ∀ g : Group, ∃ ses, g.read es = .ok ses ∧ g.Reads s ses := by
    simp only [reads_iff]
    exact ⟨fun h _ f _ ↦ h f, fun h f ↦ h f.group f f.mem_fields⟩
  rw [hall]
  simp only [Dialect.settings, bind_eq_ok]
  constructor
  · obtain ⟨server, api, smtp, templates, rate, log, trace⟩ := s
    rintro ⟨_, ⟨⟩, _, hserver, _, hapi, _, hsmtp, _, htemplates, _, hrate, _, hlog, _, htrace, ⟨⟩⟩ g
    cases g with
    | server => exact (section_eq_ok_iff .server (fun _ ↦ server_eq_ok_iff) rfl).mp hserver
    | api => exact (section_eq_ok_iff .api (fun _ ↦ api_eq_ok_iff) rfl).mp hapi
    | smtp => exact (section_eq_ok_iff .smtp (fun _ ↦ smtp_eq_ok_iff) rfl).mp hsmtp
    | templates =>
      exact (section_eq_ok_iff .templates (fun _ ↦ templates_eq_ok_iff) rfl).mp htemplates
    | rate => exact (section_eq_ok_iff .rate (fun _ ↦ rate_eq_ok_iff) rfl).mp hrate
    | log => exact (section_eq_ok_iff .log (fun _ ↦ log_eq_ok_iff) rfl).mp hlog
    | trace => exact (section_eq_ok_iff .trace (fun _ ↦ trace_eq_ok_iff) rfl).mp htrace
  · intro h
    exact ⟨es, rfl, _, (section_eq_ok_iff .server (fun _ ↦ server_eq_ok_iff) rfl).mpr (h .server),
      _, (section_eq_ok_iff .api (fun _ ↦ api_eq_ok_iff) rfl).mpr (h .api),
      _, (section_eq_ok_iff .smtp (fun _ ↦ smtp_eq_ok_iff) rfl).mpr (h .smtp),
      _, (section_eq_ok_iff .templates (fun _ ↦ templates_eq_ok_iff) rfl).mpr (h .templates),
      _, (section_eq_ok_iff .rate (fun _ ↦ rate_eq_ok_iff) rfl).mpr (h .rate),
      _, (section_eq_ok_iff .log (fun _ ↦ log_eq_ok_iff) rfl).mpr (h .log),
      _, (section_eq_ok_iff .trace (fun _ ↦ trace_eq_ok_iff) rfl).mpr (h .trace), rfl⟩

/-! ## Settings of given values -/

/-- A value is of a kind. -/
def Kind.Holds : Kind → Value → Prop
  | .text, w => ∃ x, w = .text x
  | .optionalText, w => ∃ x, w = .ofText? x
  | .flag, w => ∃ x, w = .flag x
  | .natural _, w => ∃ x, w = .number x
  | .fraction, w => ∃ x, w = .fraction x
  | .texts, w => ∃ x, w = .texts x

theorem Kind.holds_of_read {k : Kind} {w : Value} (h : k.read v = .ok w) : k.Holds w := by
  cases k <;> exact (map_eq_ok.mp h).imp fun _ hx ↦ hx.2.symm

theorem holds_value (s : Settings) (f : Field) : f.kind.Holds (s.value f) := by
  cases f <;> exact ⟨_, rfl⟩

theorem Field.holds_of_read {f : Field} {w : Value} (h : f.read es = .ok w) : f.kind.Holds w := by
  obtain ⟨ses, -, hses⟩ := bind_eq_ok.mp h
  rw [Field.readIn] at hses
  cases hv : ses.lookup f.name with
  | none =>
    rw [hv] at hses
    exact Except.ok.inj hses ▸ holds_value {} f
  | some v =>
    rw [hv] at hses
    exact Kind.holds_of_read hses

namespace Value

/-- The text of a value. -/
def asText : Value → String
  | text s => s
  | _ => ""

/-- The text of a value, if it has one. -/
def asText? : Value → Option String
  | text s => some s
  | _ => none

/-- The truth value of a value. -/
def asFlag : Value → Bool
  | flag b => b
  | _ => false

/-- The natural number of a value. -/
def asNumber : Value → Nat
  | number n => n
  | _ => 0

/-- The fraction of a value. -/
def asFraction : Value → Float
  | fraction x => x
  | _ => 0

/-- The texts of a value. -/
def asTexts : Value → List String
  | texts ss => ss
  | _ => []

variable {w : Value} {width : Nat}

theorem text_asText (h : Kind.text.Holds w) : text w.asText = w := by
  obtain ⟨x, rfl⟩ := h
  rfl

theorem ofText?_asText? (h : Kind.optionalText.Holds w) : ofText? w.asText? = w := by
  obtain ⟨_ | x, rfl⟩ := h
  · rfl
  · rfl

theorem flag_asFlag (h : Kind.flag.Holds w) : flag w.asFlag = w := by
  obtain ⟨x, rfl⟩ := h
  rfl

theorem number_asNumber (h : (Kind.natural width).Holds w) : number w.asNumber = w := by
  obtain ⟨x, rfl⟩ := h
  rfl

theorem fraction_asFraction (h : Kind.fraction.Holds w) : fraction w.asFraction = w := by
  obtain ⟨x, rfl⟩ := h
  rfl

theorem texts_asTexts (h : Kind.texts.Holds w) : texts w.asTexts = w := by
  obtain ⟨x, rfl⟩ := h
  rfl

end Value

/-- The settings that have given values. -/
def ofValues (w : Field → Value) : Settings where
  server := {
    host := (w .serverHost).asText
    port := (w .serverPort).asNumber
    corsOrigins := (w .corsOrigins).asTexts
    bodyLimit := (w .bodyLimit).asNumber }
  api := { key := (w .apiKey).asText? }
  smtp := {
    transport := (w .transport).asText
    host := (w .smtpHost).asText
    port := (w .smtpPort).asNumber
    username := (w .username).asText?
    password := (w .password).asText?
    secure := (w .secure).asFlag
    sender := (w .sender).asText
    senderName := (w .senderName).asText? }
  templates := {
    dir := (w .templateDir).asText
    parts := (w .partDir).asText?
    locales := (w .localeDir).asText
    logo := (w .logo).asText
    contentId := (w .contentId).asText }
  rate := {
    enabled := (w .limited).asFlag
    requests := (w .requests).asNumber
    window := (w .window).asNumber
    cleanupInterval := (w .cleanupInterval).asNumber
    recordLifetime := (w .recordLifetime).asNumber }
  log := { format := (w .logFormat).asText }
  trace := {
    enabled := (w .traced).asFlag
    endpoint := (w .endpoint).asText
    serviceName := (w .serviceName).asText
    samplingRatio := (w .samplingRatio).asFraction }

theorem value_ofValues {w : Field → Value} {f : Field} (h : f.kind.Holds (w f)) :
    (ofValues w).value f = w f := by
  cases f with
  | serverHost | transport | smtpHost | sender | templateDir | localeDir | logo | contentId
  | logFormat | endpoint | serviceName => exact Value.text_asText h
  | apiKey | username | password | senderName | partDir => exact Value.ofText?_asText? h
  | secure | limited | traced => exact Value.flag_asFlag h
  | serverPort | bodyLimit | smtpPort | requests | window | cleanupInterval | recordLifetime =>
    exact Value.number_asNumber h
  | samplingRatio => exact Value.fraction_asFraction h
  | corsOrigins => exact Value.texts_asTexts h

/-- There are settings of given values in a document if every value is read from it. -/
theorem exists_settings_iff {source : Option String} {w : Field → Value} :
    (∃ s, Node.dialect.settings (.table source es) = .ok s ∧ ∀ f, s.value f = w f) ↔
      ∀ f : Field, f.read es = .ok (w f) := by
  simp only [settings_eq_ok_iff]
  constructor
  · rintro ⟨s, hs, hw⟩ f
    rw [hs, hw]
  · intro h
    have hw (f : Field) : (ofValues w).value f = w f := value_ofValues (Field.holds_of_read (h f))
    exact ⟨ofValues w, fun f ↦ by rw [h, hw], hw⟩

end Mailroom.Settings
