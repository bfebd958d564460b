/-!
# Text in bytes

Reading bytes as text. Bytes that are not text have a flaw at the first character that cannot be
read: a byte that cannot stand where it does, or the end of the bytes.
-/

namespace Mailroom.Text.Utf8

/-- Why bytes are not text: as many of them as the length says begin a character that is broken off
by the byte that follows, or by the end. The offset is that of the character. -/
inductive Flaw where
  | broken (length offset : Nat)
  | cutShort (offset : Nat)
deriving DecidableEq, Repr

/-- The wording of a flaw. -/
def Flaw.message : Flaw → String
  | .broken length offset => s!"invalid utf-8 sequence of {length} bytes from index {offset}"
  | .cutShort offset => s!"incomplete utf-8 byte sequence from index {offset}"

/-- How many bytes follow the first byte of a character, if it can be one. -/
def tailLength? (first : UInt8) : Option Nat :=
  if first < 0x80 then some 0
  else if first < 0xC2 then none
  else if first < 0xE0 then some 1
  else if first < 0xF0 then some 2
  else if first < 0xF5 then some 3
  else none

/-- Whether a byte can be the second one of a character. -/
def isSecond (first second : UInt8) : Bool :=
  let least : UInt8 := if first = 0xE0 then 0xA0 else if first = 0xF0 then 0x90 else 0x80
  let greatest : UInt8 := if first = 0xED then 0x9F else if first = 0xF4 then 0x8F else 0xBF
  least ≤ second && second ≤ greatest

/-- How many bytes go on with a character, of those that could. -/
def goodTail (first : UInt8) : List UInt8 → Nat
  | [] => 0
  | second :: more =>
    if isSecond first second then 1 + (more.takeWhile fun b => 0x80 ≤ b && b < 0xC0).length else 0

/-- The flaw of bytes that are not text. -/
def flawFrom (offset : Nat) : List UInt8 → Flaw
  | [] => .cutShort offset
  | first :: bs =>
    match tailLength? first with
    | none => .broken 1 offset
    | some n =>
      let good := goodTail first (bs.take n)
      if good = n then flawFrom (offset + n + 1) (bs.drop n)
      else if bs.length ≤ good then .cutShort offset
      else .broken (good + 1) offset
termination_by bs => bs.length
decreasing_by simp only [List.length_drop, List.length_cons]; omega

/-- The text that bytes are. -/
def read (bs : List UInt8) : Except Flaw String :=
  match String.fromUTF8? ⟨bs.toArray⟩ with
  | some s => .ok s
  | none => .error (flawFrom 0 bs)

end Mailroom.Text.Utf8
