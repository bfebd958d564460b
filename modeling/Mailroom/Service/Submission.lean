import Mailroom.Json.Shape
import Mailroom.Mail.Address
import Mailroom.Mail.Outgoing
import Mailroom.Text.Blank

/-!
# Submissions

What a caller submits to have a message sent: the recipients, the locale, the payload that the
template is filled with, and, if the caller likes, a subject and more addresses.
-/

namespace Mailroom

/-- Addresses beside those of the recipients. -/
structure Submission.Extras where
  replyTo : Option String := none
  cc : List String := []
  bcc : List String := []

/-- A submission. -/
structure Submission where
  addressees : List String
  locale : String := "tr"
  subject : Option String := none
  payload : Json.Members := []
  extras : Option Submission.Extras := none

namespace Submission

/-- A part of the place of a problem: the name of a member or the number of an item. -/
inductive Place where
  | member (name : String)
  | item (index : Nat)
deriving DecidableEq, Repr

/-- Something that is wrong with a submission, and where. -/
structure Problem where
  path : List Place
  message : String
deriving DecidableEq, Repr

/-- A place as a JSON value. -/
def Place.toJson : Place → Json
  | .member name => .str name
  | .item index => Json.ofNat index

/-- A problem as a JSON object. -/
def Problem.toJson (p : Problem) : Json :=
  .ofMembers [("path", .arr (p.path.map Place.toJson)), ("message", .str p.message)]

/-- The problem of an address that is none. -/
def badAddress (path : List Place) : Problem := ⟨path, "Invalid email"⟩

/-- The problems of a list of addresses. -/
def addressProblems (path : List Place) (addresses : List String) : List Problem :=
  (addresses.zipIdx.filter fun a => !Mail.isAddress a.1).map fun a =>
    badAddress (path ++ [.item a.2])

/-- The problems of the addresses beside those of the recipients. -/
def Extras.problems (e : Extras) : List Problem :=
  ((e.replyTo.filter fun a => !Mail.isAddress a).map fun _ =>
      badAddress [.member "meta", .member "reply_to"]).toList
    ++ addressProblems [.member "meta", .member "cc"] e.cc
    ++ addressProblems [.member "meta", .member "bcc"] e.bcc

/-- The problems of a submission. -/
def problems (s : Submission) : List Problem :=
  (if s.addressees.isEmpty then [⟨[.member "to"], "At least one recipient is required"⟩] else [])
    ++ addressProblems [.member "to"] s.addressees
    ++ (s.extras.map Extras.problems).getD []

open Json Json.Shape

/-- The addresses beside those of the recipients, from a JSON value. -/
def Extras.ofJson (v : Json) : Shaped Extras := do
  let ms ← record "EmailMeta" [.may "reply_to" (optional text), .may "cc" (list text),
    .may "bcc" (list text)] v
  return {
    replyTo := ← getD ms "reply_to" (optional text) none
    cc := ← getD ms "cc" (list text) []
    bcc := ← getD ms "bcc" (list text) [] }

/-- A submission from a JSON value, whether its addresses are right or not. -/
def ofShape (v : Json) : Shaped Submission := do
  let ms ← record "SendEmailRequest" [.must "to" (list text), .may "locale" text,
    .may "subject" (optional text), .may "data" members, .may "meta" (optional Extras.ofJson)] v
  return {
    addressees := ← get ms "to" (list text)
    locale := ← getD ms "locale" text "tr"
    subject := ← getD ms "subject" (optional text) none
    payload := ← getD ms "data" members []
    extras := ← getD ms "meta" (optional Extras.ofJson) none }

/-- A submission from a JSON value, or the problems with it. -/
def ofJson (v : Json) : Except (List Problem) Submission :=
  match ofShape v with
  | .error e => .error [⟨[], e.message⟩]
  | .ok s => if s.problems.isEmpty then .ok s else .error s.problems

/-- The subject that the caller chose, unless it is blank. -/
def ownSubject? (s : Submission) : Option String := s.subject.filter fun t => !Text.isBlankText t

/-- The message with a subject and a page. -/
def toMessage (s : Submission) (subject html : String) : Mail.Outgoing :=
  let extras := s.extras.getD {}
  { addressees := s.addressees, subject, html, replyTo := extras.replyTo, cc := extras.cc,
    bcc := extras.bcc }

end Submission

end Mailroom
