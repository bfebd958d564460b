import Mailroom.Mail.Courier
import Mailroom.Mail.Outbox

/-!
# Transports

The ways in which messages leave the service: into memory, or through a relay.
-/

namespace Mailroom.Mail

/-- A transport. -/
inductive Transport where
  | memory (box : Outbox)
  | remote (courier : Courier) (relay : Relay)

namespace Transport

/-- The transport that the settings ask for. -/
def ofSettings (s : SmtpSettings) (image : Option InlineImage) (relay : Relay) :
    Attempt Fault Transport := do
  match s.transport with
  | "smtp" => return .remote (← Courier.ofSettings s image) relay
  | "memory" =>
    Journal.log {
      level := .warn
      target := "ara_email_service::mail"
      message := "Using in-memory mail transport, emails will not be delivered" }
    return .memory {}
  | other => throw (.config s!"unknown transport: {other}")

/-- The name of a transport. -/
def name : Transport → String
  | .memory _ => "memory"
  | .remote _ _ => "smtp"

/-- Hand over a message. -/
def send (fresh : Fresh) (m : Outgoing) : Transport →
    Journaled (Transport × Except Fault String)
  | .memory box => do
    let (box, outcome) ← box.send fresh.id m
    return (.memory box, outcome)
  | .remote courier relay => do
    let (_, outcome) ← courier.send relay fresh m
    return (.remote courier relay, outcome)

/-- Whether messages would be taken at present. -/
def verify : Transport → Journaled Bool
  | .memory box => return box.accepts
  | .remote courier relay => return (← courier.verify relay).2

/-- The messages that were taken into memory. -/
def delivered : Transport → List Delivered
  | .memory box => box.delivered
  | .remote _ _ => []

end Transport

end Mailroom.Mail
