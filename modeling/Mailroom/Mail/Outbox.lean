import Mailroom.Journal
import Mailroom.Mail.Fault
import Mailroom.Mail.Outgoing

/-!
# Delivery into memory

An outbox keeps the messages that it is given, or refuses them all for one reason.
-/

namespace Mailroom.Mail

/-- A message that was taken, and the identification it was given. -/
structure Delivered where
  id : String
  message : Outgoing
deriving DecidableEq, Repr

/-- The messages taken so far, the first one first, and the reason to refuse messages, if there is
one. -/
structure Outbox where
  delivered : List Delivered := []
  refusal : Option String := none

namespace Outbox

/-- Hand over a message, for which the name `fresh` has not been used before. -/
def send (fresh : String) (m : Outgoing) (box : Outbox) :
    Journaled (Outbox × Except Fault String) := do
  match box.refusal with
  | some reason => return (box, .error (.send reason))
  | none =>
    let id := s!"<{fresh}@memory>"
    Journal.log {
      level := .debug
      target := "ara_email_service::mail::memory"
      message := "Email recorded in memory"
      fields := [("message_id", .plain id), ("subject", .plain m.subject),
        ("recipients", .int m.recipients.length)] }
    return ({ box with delivered := box.delivered ++ [⟨id, m⟩] }, .ok id)

/-- Whether messages are taken. -/
def accepts (box : Outbox) : Bool := box.refusal.isNone

end Outbox

end Mailroom.Mail
