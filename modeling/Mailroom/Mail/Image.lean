import Mailroom.Files.Tree
import Mailroom.Journal
import Mailroom.Text.Case

/-!
# Images within a message

The image that travels with every message, and that a page refers to by its content id.
-/

namespace Mailroom.Mail

/-- An image and the name under which a page refers to it. -/
structure InlineImage where
  contentId : String
  contentType : String
  bytes : ByteArray

namespace InlineImage

/-- The content types of the known extensions. -/
def contentTypes : List (String × String) := [
  ("png", "image/png"), ("jpg", "image/jpeg"), ("jpeg", "image/jpeg"), ("gif", "image/gif"),
  ("svg", "image/svg+xml"), ("webp", "image/webp")]

/-- The content type of a file, by its extension. -/
def contentTypeOf (path : String) : String :=
  let name := (Files.Path.ofText path).getLast?.getD ""
  (((Files.splitExtension name).2.map Text.asciiLower).bind (List.lookup · contentTypes)).getD
    "application/octet-stream"

/-- Load an image. A file that cannot be read is reported, and messages do without it. -/
def load (files : Files.Tree) (path contentId : String) : Journaled (Option InlineImage) := do
  match files.read path with
  | .ok bytes => return some { contentId, contentType := contentTypeOf path, bytes }
  | .error fault =>
    Journal.log {
      level := .warn
      target := "ara_email_service::mail::types"
      message := "Inline image not readable, emails will be sent without it"
      fields := [("path", .plain (files.shown path)), ("error", .plain fault.message)] }
    return none

end InlineImage

end Mailroom.Mail
