/-!
# The characters of addresses

Which characters may stand in the words of an address as they are, and which between quotes. Every
character outside ASCII may stand in both.
-/

namespace Mailroom.Mail

/-- A letter, a digit or one of the signs that may stand in a word. -/
def isAtomChar (c : Char) : Bool :=
  c.isAlphanum || "!#$%&'*+-/=?^_\x60\x7b|\x7d~".toList.contains c || 0x80 ≤ c.toNat

/-- An ASCII character that is seen. -/
def isVisible (c : Char) : Bool := 0x21 ≤ c.toNat && c.toNat ≤ 0x7E

/-- A space or a tab. -/
def isGap (c : Char) : Bool := c = ' ' || c = '\t'

/-- A character that may stand between quotes without a backslash. -/
def isQuotable (c : Char) : Bool :=
  (isVisible c && c != '"' && c != '\\') || 0x80 ≤ c.toNat

end Mailroom.Mail
