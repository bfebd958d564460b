import Mailroom.Files.Tree

/-!
# Settings

What can be set about the service, section by section, and the values that hold when nothing is
set.
-/

namespace Mailroom

/-- Where the service listens, who may call it from a page of another origin, and how large a
request may be. -/
structure ServerSettings where
  host : String := "0.0.0.0"
  port : Nat := 3000
  corsOrigins : List String := []
  bodyLimit : Nat := 100 * 1024

/-- The key that callers have to show. -/
structure ApiSettings where
  key : Option String := none

/-- How messages are delivered: through a relay, or into memory only. With `secure` the connection
to the relay is encrypted from its beginning. -/
structure SmtpSettings where
  transport : String := "smtp"
  host : String := "localhost"
  port : Nat := 587
  username : Option String := none
  password : Option String := none
  secure : Bool := false
  sender : String := "noreply@localhost"
  senderName : Option String := none

/-- Where templates, their parts, the locale documents and the logo are found, and the name under
which a message refers to the logo. -/
structure TemplateSettings where
  dir : String := "templates"
  parts : Option String := none
  locales : String := "locales"
  logo : String := "templates/logo.png"
  contentId : String := "logo"

/-- How many requests a client may make in a window of so many seconds, how often the records of
clients are looked through, and after how many seconds without a request a record is dropped. -/
structure RateSettings where
  enabled : Bool := true
  requests : Nat := 30
  window : Nat := 60
  cleanupInterval : Nat := 60
  recordLifetime : Nat := 300

/-- The form of the log: text or JSON. -/
structure LogSettings where
  format : String := "text"

/-- Whether and where traces of the work are sent, under which name, and how many of them. -/
structure TraceSettings where
  enabled : Bool := false
  endpoint : String := "http://localhost:4317"
  serviceName : String := "ara-email-service"
  samplingRatio : Float := 1.0

/-- All settings. -/
structure Settings where
  server : ServerSettings := {}
  api : ApiSettings := {}
  smtp : SmtpSettings := {}
  templates : TemplateSettings := {}
  rate : RateSettings := {}
  log : LogSettings := {}
  trace : TraceSettings := {}

namespace TemplateSettings

/-- The folder of the parts of templates: beside the templates, if nothing else is set. -/
def partsDir (t : TemplateSettings) : String := t.parts.getD (Files.join t.dir "partials")

/-- The address under which a page refers to the logo. -/
def logoUrl (t : TemplateSettings) : String := "cid:" ++ t.contentId

end TemplateSettings

/-- The address that the service listens on. -/
def ServerSettings.address (s : ServerSettings) : String := s!"{s.host}:{s.port}"

end Mailroom
