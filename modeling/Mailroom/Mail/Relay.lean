import Mailroom.Mail.Message
import Mailroom.Mail.Reply
import Mailroom.Text.Case
import Mailroom.Text.Utf8

/-!
# Talking to a relay

A relay is known by what it answers: its greeting, and its reply to each thing said to it, which may
depend on all that was said before. A conversation takes one message from the greeting to the
reply that it was accepted, and ends at the first reply that refuses something.
-/

namespace Mailroom.Mail

/-- Something said to a relay: a command, or a message through the dot that ends it. -/
inductive Said where
  | command (line : String)
  | data (text : String)
deriving DecidableEq, Repr

/-- A relay: its greeting, or why it cannot be reached; and its reply to the last of the things
said. -/
structure Relay where
  greeting : Except String String
  reply : List Said → String

/-- A relay that cannot be reached. -/
def Relay.unreachable (reason : String) : Relay := ⟨.error reason, fun _ => ""⟩

/-- Why a conversation ended. -/
inductive Trouble where
  | unreachable (reason : String)
  | own (reason : String)
  | unclear (reason : String)
  | transient (code text : String)
  | permanent (code text : String)
deriving DecidableEq, Repr

/-- The wording of a trouble. -/
def Trouble.message : Trouble → String
  | .unreachable reason => s!"Connection error: {reason}"
  | .own reason => s!"internal client error: {reason}"
  | .unclear reason => s!"response error: {reason}"
  | .transient code text => s!"transient error ({code}): {text}"
  | .permanent code text => s!"permanent error ({code}): {text}"

/-- A conversation: the relay, what was said to it, the last thing last, and what it said that was
not heard yet. -/
structure Conversation where
  relay : Relay
  said : List Said := []
  unheard : List (List Char) := []

/-- A step of a conversation. -/
abbrev Talk (α : Type) := ExceptT Trouble (StateM Conversation) α

namespace Talk

/-- The lines of a text, each with the line feed that ends it. -/
def linesOf : List Char → List (List Char)
  | [] => []
  | c :: cs =>
    if c = '\n' then [c] :: linesOf cs
    else match linesOf cs with
      | [] => [[c]]
      | line :: lines => (c :: line) :: lines

/-- The reply that the lines begin with, and the lines behind it. -/
def firstReply (heard : List Char) : List (List Char) →
    Except Trouble Reply × List (List Char)
  | [] => (.error (.unclear "incomplete response"), [])
  | line :: lines =>
    match Reply.ofText (heard ++ line) with
    | .reply r => (.ok r, lines)
    | .unfinished => firstReply (heard ++ line) lines
    | .flawed f => (.error (.unclear f.message), lines)

/-- Hear a reply, which must not refuse. -/
def hear : Talk Reply := do
  let c ← get
  let (reply, rest) := firstReply [] c.unheard
  set { c with unheard := rest }
  let r ← ExceptT.mk (pure reply)
  let code := String.ofList r.code
  match r.outcome with
  | .positive => return r
  | .transient => throw (.transient code r.text)
  | .permanent => throw (.permanent code r.text)

/-- Say something and hear the reply. -/
def say (s : Said) : Talk Reply := do
  modify fun c =>
    let said := c.said ++ [s]
    let reply := linesOf (c.relay.reply said ++ "\r\n").toList
    { c with said, unheard := c.unheard ++ reply }
  hear

/-- Take leave, whatever the relay says to it. -/
def leave : Talk Unit := try discard (say (.command "QUIT")) catch _ => return ()

/-- Say something, and take leave if it is refused. -/
def demand (s : Said) : Talk Reply := do
  try say s
  catch trouble => leave; throw trouble

/-! ## The beginning -/

/-- What a relay offers beyond the minimum. -/
structure Offer where
  wideContent : Bool := false
  wideAddresses : Bool := false
  plainLogin : Bool := false
  promptedLogin : Bool := false

/-- Add what a line of the relay's introduction offers. -/
def Offer.add (o : Offer) (line : String) : Offer :=
  match Reply.wordsOf line with
  | "8BITMIME" :: _ => { o with wideContent := true }
  | "SMTPUTF8" :: _ => { o with wideAddresses := true }
  | "AUTH" :: ways =>
    { o with
      plainLogin := o.plainLogin || ways.contains "PLAIN"
      promptedLogin := o.promptedLogin || ways.contains "LOGIN" }
  | _ => o

/-- Connect, and exchange introductions. -/
def introduce : Talk Offer := do
  match (← get).relay.greeting with
  | .error reason => throw (.unreachable reason)
  | .ok greeting =>
    modify fun c => { c with unheard := linesOf (greeting ++ "\r\n").toList }
    discard hear
    let r ← demand (.command "EHLO [127.0.0.1]")
    match r.firstWord? with
    | none => throw (.unclear "Could not read server name")
    | some _ => return r.lines.foldl Offer.add {}

/-! ## Login -/

/-- The base 64 form of a text. -/
def base64 (s : String) : String :=
  String.ofList (Text.Base64.encode (Text.Base64.bytesOf s.toList))

/-- The text that a prompt of the relay stands for. -/
def promptOf (r : Reply) : Except Trouble String :=
  match r.firstWord? with
  | none => .error (.unclear "Could not read auth challenge")
  | some word => do
    let bytes ← (Text.Base64.decode (Text.Base64.bytesOf word.toList)).mapError
      fun flaw => .unclear flaw.message
    (Text.Utf8.read bytes).mapError fun flaw => .unclear flaw.message

/-- The answer to a prompt, whose letters may be of either case. -/
def answerTo (user password prompt : String) : Except Trouble String :=
  let prompt := Text.asciiLower prompt
  if ["user name", "username:", "username", "user name\x00"].contains prompt then .ok user
  else if ["password", "password:", "password\x00"].contains prompt then .ok password
  else .error (.own "Unrecognized challenge")

/-- Answer prompts until there are no more, at most as many as the number says. -/
def answerPrompts (user password : String) : Nat → Reply → Talk Unit
  | 0, _ => throw (.unclear "Unexpected number of challenges")
  | n + 1, r => do
    if r.code = ['3', '3', '4'] then
      let prompt ← ExceptT.mk (pure (promptOf r))
      let answer ← ExceptT.mk (pure (answerTo user password prompt))
      let r ← demand (.command (base64 answer))
      answerPrompts user password n r
    else return ()

/-- Log in, in the first way that both sides know. -/
def login (o : Offer) (user password : String) : Talk Unit := do
  if o.plainLogin then
    let r ← say (.command ("AUTH PLAIN " ++ base64 s!"\x00{user}\x00{password}"))
    if r.code = ['3', '3', '4'] then
      let _ ← ExceptT.mk (pure (promptOf r))
      throw (.own "This mechanism does not expect a challenge")
  else if o.promptedLogin then
    let r ← say (.command "AUTH LOGIN")
    answerPrompts user password 10 r
  else throw (.own "No compatible authentication mechanism was found")

/-- Connect, and log in with the credentials, if there are any. -/
def enter (credentials : Option (String × String)) : Talk Offer := do
  let offer ← introduce
  if let some (user, password) := credentials then login offer user password
  return offer

/-! ## Delivery -/

/-- Hand over a message. -/
def deliver (o : Offer) (m : Message) : Talk Unit := do
  let wideAddresses := m.envelope.beyondAscii
  let wideContent := m.text.toList.any (0x80 ≤ ·.toNat)
  if wideAddresses && !o.wideAddresses then
    throw (.own "Envelope contains non-ascii chars but server does not support SMTPUTF8")
  if wideContent && !o.wideContent then
    throw (.own "Message contains non-ascii chars but server does not support 8BITMIME")
  let options := (if wideAddresses then " SMTPUTF8" else "")
    ++ (if wideContent then " BODY=8BITMIME" else "")
  discard (demand (.command s!"MAIL FROM:<{m.envelope.sender.text}>{options}"))
  for a in m.envelope.recipients do
    discard (demand (.command s!"RCPT TO:<{a.text}>"))
  discard (demand (.command "DATA"))
  discard (demand (.data m.data))
  leave

/-- See whether a relay is there. -/
def probe : Talk Bool := do
  let alive ← try discard (say (.command "NOOP")); pure true catch _ => pure false
  discard (say (.command "QUIT"))
  return alive

end Talk

end Mailroom.Mail
