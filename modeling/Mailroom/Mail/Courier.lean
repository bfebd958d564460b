import Mailroom.Journal
import Mailroom.Mail.Relay
import Mailroom.Settings.Basic
import Mailroom.Text.Quoted

/-!
# Delivery through a relay

A courier knows in whose name messages are sent, which image goes with them, and how to log in. Each
message is taken to the relay in a conversation of its own.
-/

namespace Mailroom.Mail

/-- A courier. -/
structure Courier where
  sender : Mailbox
  image : Option InlineImage := none
  credentials : Option (String × String) := none

/-- Names that have not been used before: for the identification of a message, and for the mark
between its parts. -/
structure Fresh where
  id : String
  boundary : String

namespace Courier

/-- Say something about delivery. -/
def say (level : Log.Level) (message : String) (fields : Log.Fields) : Journaled Unit :=
  Journal.log { level, target := "ara_email_service::mail::smtp", message, fields }

/-- The mailbox of the sender. -/
def senderOf (s : SmtpSettings) : Except Fault Mailbox :=
  match Address.ofText s.sender with
  | .ok address => .ok { name := s.senderName, address }
  | .error e => .error (.config s!"smtp.from {Text.quoted s.sender}: {e.message}")

/-- The courier for some settings. -/
def ofSettings (s : SmtpSettings) (image : Option InlineImage) : Attempt Fault Courier := do
  let sender ← ExceptT.mk (pure (senderOf s))
  say .info "SMTP transport initialized"
    [("host", .plain s.host), ("port", .int s.port), ("secure", .bool s.secure),
      ("inline_logo", .bool image.isSome)]
  let credentials := do some (← s.username, ← s.password)
  return { sender, image, credentials }

/-- The identification of a message. -/
def idOf (c : Courier) (fresh : Fresh) : String := s!"<{fresh.id}@{c.sender.address.domain}>"

/-- The conversation in which a message is handed over. -/
def handOver (c : Courier) (m : Message) : Talk Unit := do
  let offer ← Talk.enter c.credentials
  Talk.deliver offer m

/-- Take a message to a relay. The first answer is what was said to the relay. -/
def send (relay : Relay) (fresh : Fresh) (m : Outgoing) (c : Courier) :
    Journaled (List Said × Except Fault String) := do
  let id := c.idOf fresh
  let stamp : Stamp := { id, boundary := fresh.boundary, time := ← Journal.clock }
  match Message.make c.sender c.image stamp m with
  | .error fault => return ([], .error fault)
  | .ok message =>
    let (outcome, conversation) := (c.handOver message).run { relay }
    match outcome with
    | .error trouble => return (conversation.said, .error (.send trouble.message))
    | .ok () =>
      say .debug "SMTP relay accepted message"
        [("message_id", .plain id), ("recipients", .int m.recipients.length)]
      return (conversation.said, .ok id)

/-- See whether a relay is there. -/
def verify (relay : Relay) (c : Courier) : Journaled (List Said × Bool) := do
  let probe : Talk Bool := do
    discard (Talk.enter c.credentials)
    Talk.probe
  let (outcome, conversation) := probe.run { relay }
  match outcome with
  | .ok alive => return (conversation.said, alive)
  | .error trouble =>
    say .warn "SMTP connection check failed" [("error", .plain trouble.message)]
    return (conversation.said, false)

end Courier

end Mailroom.Mail
