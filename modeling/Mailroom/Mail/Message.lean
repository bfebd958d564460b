import Mailroom.Calendar.Instant
import Mailroom.Mail.Fault
import Mailroom.Mail.Image
import Mailroom.Mail.MediaType
import Mailroom.Mail.Outgoing
import Mailroom.Mail.Transfer

/-!
# Messages on the wire

A message as it is handed to a relay: the addresses it comes from and goes to, and its text, which
is a block of headers, an empty line and the content. The addresses are read back from the headers;
who gets a blind copy is among them, but stands in no header of the text.
-/

namespace Mailroom.Mail

/-- A header: its value as it was set, and as it is written. -/
structure Header where
  name : String
  value : String
  written : String

namespace Header

/-- A header that holds a text. -/
def ofText (name value : String) : Header := ⟨name, value, HeaderLine.ofText name value⟩

/-- A header that holds mailboxes. -/
def ofMailboxes (name : String) (ms : List Mailbox) : Header :=
  ⟨name, Mailbox.listText ms, HeaderLine.ofMailboxes name ms⟩

/-- The lines of a header. -/
def lines (h : Header) : String := s!"{h.name}: {h.written}\r\n"

end Header

/-- Headers in the order in which they were set first. -/
abbrev Headers := List Header

namespace Headers

/-- The mailboxes that a header holds, if it is there and can be read. -/
def mailboxes? (name : String) (hs : Headers) : Option (List Mailbox) := do
  let h ← hs.find? (·.name == name)
  (Mailbox.listOfText h.value).toOption

/-- Set a header in the place of the one of its name, or behind all others. -/
def set (h : Header) : Headers → Headers
  | [] => [h]
  | g :: hs => if g.name = h.name then h :: hs else g :: set h hs

/-- Add a mailbox to a header. Mailboxes that cannot be read back give way. -/
def addMailbox (name : String) (m : Mailbox) (hs : Headers) : Headers :=
  hs.set (.ofMailboxes name ((hs.mailboxes? name).getD [] ++ [m]))

/-- Add a mailbox to a header for each of some addresses. -/
def addAll (name : String) (addresses : List String) (hs : Headers) : Except Fault Headers :=
  addresses.foldlM (fun (hs : Headers) a =>
    match Mailbox.ofText a with
    | .ok m => .ok (hs.addMailbox name m)
    | .error e => .error (.address s!"{a}: {e.message}")) hs

/-- The text of a block of headers. -/
def text (hs : Headers) : String := String.join (hs.map Header.lines)

end Headers

/-- Who a message is from, and who it goes to. -/
structure Envelope where
  sender : Address
  recipients : List Address
deriving DecidableEq, Repr

/-- Whether a character outside ASCII is in an address of the envelope. -/
def Envelope.beyondAscii (e : Envelope) : Bool :=
  e.sender.beyondAscii || e.recipients.any (·.beyondAscii)

/-- A message with its envelope. -/
structure Message where
  envelope : Envelope
  text : String
deriving DecidableEq, Repr

/-- What a message is given when it is made: its identification, the mark between its parts, and
the time. -/
structure Stamp where
  id : String
  boundary : String
  time : Int

namespace Message

/-- The headers that name people, and the subject. -/
def heading (sender : Mailbox) (stamp : Stamp) (m : Outgoing) : Except Fault Headers := do
  let hs : Headers := [.ofMailboxes "From" [sender], .ofText "Subject" m.subject,
    .ofText "Message-ID" stamp.id]
  let hs ← hs.addAll "To" m.addressees
  let hs ← hs.addAll "Cc" m.cc
  let hs ← hs.addAll "Bcc" m.bcc
  hs.addAll "Reply-To" m.replyTo.toList

/-- A content with its headers and an end of line. -/
def part (headers : Headers) (content : List Char) : String :=
  headers.text ++ "\r\n" ++ String.ofList content ++ "\r\n"

/-- The page of a message. -/
def pagePart (html : String) : String :=
  let (encoding, content) := Transfer.ofText html
  part [.ofText "Content-Type" "text/html; charset=utf-8",
    .ofText "Content-Transfer-Encoding" encoding.name] content

/-- The image of a message. -/
def imagePart (image : InlineImage) (type : MediaType) : String :=
  let (encoding, content) := Transfer.ofBytes image.bytes.toList
  part [.ofText "Content-ID" s!"<{image.contentId}>", .ofText "Content-Disposition" "inline",
    .ofText "Content-Type" type.text, .ofText "Content-Transfer-Encoding" encoding.name] content

/-- Parts that belong together, with a mark in front of each and behind the last. -/
def related (boundary : String) (parts : List String) : String :=
  let header := Header.ofText "Content-Type" s!"multipart/related; boundary=\"{boundary}\""
  header.lines ++ "\r\n" ++ String.join (parts.map fun p => s!"--{boundary}\r\n{p}")
    ++ s!"--{boundary}--\r\n"

/-- The content of a message: its page, with the image if there is one. -/
def content (stamp : Stamp) (image : Option InlineImage) (html : String) : Except Fault String :=
  match image with
  | none => .ok (pagePart html)
  | some image =>
    match MediaType.ofText image.contentType with
    | .error e => .error (.build s!"mime parse error: {e.message}")
    | .ok type => .ok (related stamp.boundary [pagePart html, imagePart image type])

/-- Who the headers say a message is from, and who it goes to. -/
def envelopeOf (hs : Headers) : Except Fault Envelope := do
  let sender ← match hs.mailboxes? "From" with
    | some (m :: _) => pure m.address
    | _ => throw (.build "missing source address, invalid envelope")
  let named (name : String) := ((hs.mailboxes? name).getD []).map (·.address)
  let recipients := named "To" ++ named "Cc" ++ named "Bcc"
  if recipients.isEmpty then throw (.build "missing destination address, invalid envelope")
  return { sender, recipients }

/-- Make a message. -/
def make (sender : Mailbox) (image : Option InlineImage) (stamp : Stamp) (m : Outgoing) :
    Except Fault Message := do
  let hs ← heading sender stamp m
  let content ← content stamp image m.html
  let envelope ← envelopeOf hs
  let hs : Headers := hs.filter (·.name != "Bcc") ++ [.ofText "MIME-Version" "1.0",
    .ofText "Date" (Calendar.headerStamp stamp.time)]
  return { envelope, text := hs.text ++ content }

/-- A text with a dot added to every dot at the front of a line. A line is ended by a carriage
return and a line feed. -/
def stuffed : List Char → List Char
  | [] => []
  | '\r' :: '\n' :: '.' :: cs => '\r' :: '\n' :: '.' :: '.' :: stuffed cs
  | c :: cs => c :: stuffed cs

/-- What is handed over after the command for data, through the dot that ends it. -/
def data (m : Message) : String :=
  let cs := m.text.toList
  let cs := match cs with
    | '.' :: _ => '.' :: cs
    | _ => cs
  String.ofList (stuffed cs) ++ "\r\n.\r\n"

end Message

end Mailroom.Mail
