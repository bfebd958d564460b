import Mailroom.Json.Basic
import Mailroom.Text.Blank
import Mailroom.Text.Unmarked

/-!
# Salutations

How a guest is addressed on a ticket, guessed from the record of the guest: a word for a child in
any of the fields that hold a title comes first, then a word for a woman there, then the gender.
-/

namespace Mailroom.Payload

/-- How a guest is addressed. -/
inductive Salutation where
  | mr | mrs | child
deriving DecidableEq, Repr

namespace Salutation

/-- The token that is printed. -/
def token : Salutation → String
  | .mr => "MR"
  | .mrs => "MRS"
  | .child => "CHD"

/-- The fields of a record that hold a title. -/
def titleFields : List String := ["title", "type", "passengerType", "guestType"]

/-- The words for a child. -/
def childWords : List String :=
  ["chd", "child", "children", "kid", "inf", "infant", "baby", "cocuk", "bebek"]

/-- The words for a woman in a title. -/
def womanWords : List String :=
  ["mrs", "ms", "miss", "mme", "female", "woman", "bayan", "hanim", "kadin"]

/-- The words for a woman in the field of the gender. -/
def womanGenders : List String := ["f", "female", "woman", "k", "kadin", "bayan"]

/-- A word as it is looked up: without marks, in lower case, and without dots at its end. -/
def word (s : String) : String :=
  let cs := Text.unmarked (Text.trim s).toList
  String.ofList (cs.reverse.dropWhile (· = '.')).reverse

/-- The word in a field of a record. -/
def fieldWord (guest : Json) (field : String) : Option String :=
  (((guest.get? field).bind Json.text?).map word).filter (· != "")

/-- How the guest of a record is addressed. What is not a record is addressed as `mr`. -/
def ofGuest (guest : Json) : Salutation :=
  let titles := titleFields.filterMap (fieldWord guest)
  if titles.any childWords.contains then .child
  else if titles.any womanWords.contains then .mrs
  else if (fieldWord guest "gender").any womanGenders.contains then .mrs
  else .mr

end Salutation

end Mailroom.Payload
