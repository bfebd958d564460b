import Mailroom.Locale.Presentation
import Mailroom.Locale.SubjectLine
import Mailroom.Payload.Payment
import Mailroom.Template.Library

/-!
# Rendering messages

From the key of a template, a locale and a payload to the page of a message. The payload is brought
into the form that templates know; the texts of the locale and its presentation are put beside it
under two names of their own, whatever the payload holds there.
-/

namespace Mailroom.Template

open Mailroom.Files (Tree)

/-- The name under which a template finds the texts of its locale. -/
def textsKey : String := "__i18n"

/-- A renderer of messages. -/
structure Renderer where
  library : Library
  store : Locale.Store
  logoUrl : Option String := none

namespace Renderer

/-- A renderer over a library that is opened now. -/
def opened (files : Tree) (dir partsDir : String) (store : Locale.Store) (logoUrl : Option String) :
    Attempt LibraryError Renderer := do
  return { library := ← Library.opened files dir partsDir, store, logoUrl }

/-- The data that a template is shown with. -/
def context (r : Renderer) (locale : String) (payload : Json.Members) : Journaled Json := do
  let normalized ← Payload.normalize payload
  let texts ← r.store.textsFor locale
  return .obj ((normalized.insert textsKey texts).insert presentationKey
    (r.store.presentation r.logoUrl locale).toJson)

/-- Show a template. -/
def page (r : Renderer) (t : Compiled) (context : Json) : Attempt RenderError String :=
  let repertoire : Repertoire := { root := context, store := r.store, templates := r.library.kept }
  repertoire.render t

/-- Render a message. -/
def attempt (files : Tree) (key locale : String) (payload : Json.Members) (r : Renderer) :
    Journaled (Renderer × Except LibraryError String) := do
  let context ← r.context locale payload
  match ← r.library.fetch files key with
  | .error e => return (r, .error e)
  | .ok (t, library) =>
    let r := { r with library }
    match ← r.page t context with
    | .ok page => return (r, .ok page)
    | .error e =>
      Journal.log {
        level := .error
        target := "ara_email_service::template::renderer"
        message := "Template rendering failed"
        fields := [("template", .plain key), ("locale", .plain locale),
          ("error", .plain e.message)] }
      return (r, .error (.notRendered key locale e))

/-- Render a message, and count the outcome. -/
def render (files : Tree) (key locale : String) (payload : Json.Members) (r : Renderer) :
    Journaled (Renderer × Except LibraryError String) := do
  let (r, outcome) ← r.attempt files key locale payload
  match outcome with
  | .ok _ => Journal.count (.renderSucceeded key)
  | .error _ => Journal.count (.renderFailed key)
  return (r, outcome)

/-- The subject of a message that does not bring its own. -/
def subject (r : Renderer) (locale key : String) : String := r.store.subject locale key

end Renderer

end Mailroom.Template
