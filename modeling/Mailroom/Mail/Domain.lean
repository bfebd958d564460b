import Mailroom.Mail.Characters
import Mailroom.Net.Ip
import Mailroom.Text.Blank
import Mailroom.Text.Case
import Mailroom.Text.Find
import Mailroom.Text.HiddenData
import Mailroom.Text.Punycode

/-!
# Domains

The part of an address behind the `@`: labels between dots, or a literal between brackets. A domain
that has characters outside ASCII may also be judged by the form that it has in the name system,
and an address of the internet protocol stands for itself.
-/

namespace Mailroom.Mail.Domain

/-- The number of bytes of a text. -/
def size (cs : List Char) : Nat := cs.foldr (fun c n => c.utf8Size + n) 0

/-- A character that a label may begin and end with. -/
def isLabelEnd (c : Char) : Bool :=
  c.isAlphanum || (0x80 ≤ c.toNat && !Text.inRanges Text.hiddenRanges c.toNat)

/-- A label: at most 63 bytes, with a letter or digit at both ends. -/
def isLabel (label : List Char) : Bool :=
  label.head?.any isLabelEnd && label.getLast?.any isLabelEnd && size label ≤ 63
    && label.all isAtomChar

/-- A character of a literal between brackets. -/
def isLiteralChar (c : Char) : Bool :=
  (isVisible c && c != '[' && c != '\\' && c != ']') || 0x80 ≤ c.toNat

/-- What stands between brackets. -/
def bracketed? (cs : List Char) : Option (List Char) :=
  match cs, cs.getLast? with
  | '[' :: inner, some ']' => some inner.dropLast
  | _, _ => none

/-- A literal, or labels between dots; in either case at most 254 bytes. -/
def isPlain (cs : List Char) : Bool :=
  !cs.isEmpty && size cs ≤ 254 &&
    match bracketed? cs with
    | some inner => inner.all isLiteralChar
    | none => (Text.splitAt '.' cs).all isLabel

/-! ## Names in the name system -/

/-- The characters that stand for a dot. -/
def isDot (c : Char) : Bool := c = '.' || c = '。' || c = '．' || c = '｡'

/-- The characters that are left out of a name. -/
def isIgnored (c : Char) : Bool :=
  let n := c.toNat
  n = 0xAD || n = 0x34F || n = 0x200B || n = 0x2060 || n = 0x2064 || n = 0xFEFF
    || (0x180B ≤ n && n ≤ 0x180F) || (0xFE00 ≤ n && n ≤ 0xFE0F)

/-- A character of full width as the ASCII character that it is a form of. -/
def narrowed (c : Char) : Char :=
  if 0xFF01 ≤ c.toNat && c.toNat ≤ 0xFF5E then Char.ofNat (c.toNat - 0xFEE0) else c

/-- A name with all its letters small, its dots alike, and nothing ignored in it. -/
def folded (cs : List Char) : List Char :=
  ((cs.filter fun c => !isIgnored c).map fun c => if isDot c then '.' else narrowed c).flatMap
    Text.lowerChar

/-- The form of a label in the name system. A label must not begin with a mark that attaches itself
to the character before it, and holds no blank and no control character. -/
def systemLabel? (label : List Char) : Option (List Char) :=
  if label.all (·.toNat < 0x80) then some label
  else if label.head?.any (fun c => 0x80 ≤ c.toNat && Text.inRanges Text.hiddenRanges c.toNat)
      || label.any (fun c => Text.isBlank c || (0x7F ≤ c.toNat && c.toNat ≤ 0x9F)) then none
  else some ("xn--".toList ++ Text.Punycode.encode label)

/-- The form of a domain in the name system. -/
def systemName? (cs : List Char) : Option (List Char) := do
  let labels ← (Text.splitAt '.' (folded cs)).mapM systemLabel?
  some ((labels.intersperse ['.']).flatten)

/-- A domain that an address may have. -/
def isAccepted (domain : String) : Bool :=
  let cs := domain.toList
  isPlain cs || (Net.Ip.sixth? cs).isSome || (systemName? cs).any isPlain

end Mailroom.Mail.Domain
