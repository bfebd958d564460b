import Mailroom.Mail.Domain

/-!
# Addresses

A bare address: a user and a domain with an `@` between them. The user is one or more words between
dots, or anything between quotes; the last `@` is the one that counts.
-/

namespace Mailroom.Mail

/-- Why a text is no address. -/
inductive AddressError where
  | incomplete | invalidUser | invalidDomain | unreadable
deriving DecidableEq, Repr

/-- The wording of a refusal. -/
def AddressError.message : AddressError → String
  | .incomplete => "Missing domain or user"
  | .invalidUser => "Invalid email user"
  | .invalidDomain => "Invalid email domain"
  | .unreadable => "Invalid input"

/-- A user and a domain. -/
structure Address where
  user : String
  domain : String
deriving DecidableEq, Repr

namespace Address

/-- The text of an address. -/
def text (a : Address) : String := a.user ++ "@" ++ a.domain

/-- What stands between quotes, where a backslash takes away the meaning of the next character. -/
def isQuotedContent : List Char → Bool
  | [] => true
  | '\\' :: c :: cs => isVisible c && isQuotedContent cs
  | c :: cs => (isGap c || isQuotable c) && isQuotedContent cs

/-- What stands between two quotes at the ends. -/
def unquoted? (cs : List Char) : Option (List Char) :=
  match cs, cs.getLast? with
  | '"' :: inner, some '"' => some inner.dropLast
  | _, _ => none

/-- A user that an address may have, of at most 64 bytes. -/
def isUser (user : String) : Bool :=
  let cs := user.toList
  !cs.isEmpty && Domain.size cs ≤ 64 &&
    match unquoted? cs with
    | some inner => !inner.isEmpty && isQuotedContent inner
    | none => (Text.splitAt '.' cs).all fun word => !word.isEmpty && word.all isAtomChar

/-- The address with the given parts. -/
def ofParts (user domain : String) : Except AddressError Address :=
  if !isUser user then .error .invalidUser
  else if !Domain.isAccepted domain then .error .invalidDomain
  else .ok ⟨user, domain⟩

/-- What stands before and behind the last `@`. -/
def splitLast (cs : List Char) : Option (List Char × List Char) :=
  match cs.reverse.dropWhile (· != '@') with
  | [] => none
  | _ :: before => some (before.reverse, (cs.reverse.takeWhile (· != '@')).reverse)

/-- The address that a text is. -/
def ofText (s : String) : Except AddressError Address :=
  match splitLast s.toList with
  | none => .error .incomplete
  | some (user, domain) => ofParts (String.ofList user) (String.ofList domain)

/-- Whether a character outside ASCII is in an address. -/
def beyondAscii (a : Address) : Bool := a.text.toList.any (0x80 ≤ ·.toNat)

end Address

/-- Whether a text is a bare address. -/
def isAddress (s : String) : Bool :=
  match Address.ofText s with
  | .ok _ => true
  | .error _ => false

end Mailroom.Mail
