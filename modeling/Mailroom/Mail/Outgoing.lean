import Mailroom.Json.Basic

/-!
# Outgoing messages

A message that is ready for delivery: its page, its subject, and the addresses as they were given.
-/

namespace Mailroom.Mail

/-- A message and where it goes. -/
structure Outgoing where
  addressees : List String
  subject : String
  html : String
  replyTo : Option String := none
  cc : List String := []
  bcc : List String := []
deriving DecidableEq, Repr

namespace Outgoing

/-- Every address that the message is delivered to. -/
def recipients (m : Outgoing) : List String := m.addressees ++ m.cc ++ m.bcc

/-- A message as a JSON object. What it does not have is left out. -/
def toJson (m : Outgoing) : Json :=
  let list (key : String) (addresses : List String) : Json.Members :=
    if addresses.isEmpty then [] else [(key, .arr (addresses.map .str))]
  .ofMembers <|
    [("to", .arr (m.addressees.map .str)), ("subject", .str m.subject), ("html", .str m.html)]
      ++ (m.replyTo.map fun a => ("reply_to", .str a)).toList
      ++ list "cc" m.cc ++ list "bcc" m.bcc

end Outgoing

end Mailroom.Mail
