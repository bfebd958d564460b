import Mailroom.Mail.HeaderLine

/-!
# Transfer encodings

How a content is written so that every line of it is short and ASCII: as it is, with the bytes that
need it in hexadecimal notation, or in base 64, whichever suits it. A text has its lines ended by a
carriage return and a line feed; other contents keep their bytes.
-/

namespace Mailroom.Mail.Transfer

/-- A transfer encoding. -/
inductive Encoding where
  | sevenBit | quotedPrintable | base64
deriving DecidableEq, Repr

/-- The name of an encoding in a header. -/
def Encoding.name : Encoding → String
  | .sevenBit => "7bit"
  | .quotedPrintable => "quoted-printable"
  | .base64 => "base64"

/-- A byte that hexadecimal notation does not change. -/
def isShown (b : UInt8) : Bool := b = 9 || (32 ≤ b && b ≤ 126)

/-- Whether a line is too long, where `passed` bytes are between the last line feed, which counts
with its line, and the bytes given. -/
def hasLongLine (passed : Nat) : List UInt8 → Bool
  | [] => lineLimit < passed
  | b :: bs =>
    if b = 10 then lineLimit ≤ passed || hasLongLine 1 bs else hasLongLine (passed + 1) bs

/-- The encoding that suits a content: as it is if it is ASCII with short lines; hexadecimal if at
most one byte in three needs it; base 64 otherwise. -/
def choose (bytes : List UInt8) : Encoding :=
  if bytes.all (· < 0x80) && !hasLongLine 0 bytes then .sevenBit
  else if bytes.countP (fun b => !isShown b) ≤ bytes.length / 3 then .quotedPrintable
  else .base64

/-- End each line with a carriage return and a line feed. -/
def withReturns (afterReturn : Bool) : List Char → List Char
  | [] => []
  | c :: cs =>
    if c = '\n' ∧ !afterReturn then '\r' :: '\n' :: withReturns false cs
    else c :: withReturns (c = '\r') cs

/-- A hexadecimal digit in capitals. -/
def hexDigit (n : Nat) : Char := (Nat.digitChar n).toUpper

/-- How a byte is written: the byte itself, or an equals sign and two digits. -/
def tokenOf (b : UInt8) : List Char :=
  if isShown b && b != 61 then [Char.ofNat b.toNat]
  else ['=', hexDigit (b.toNat / 16), hexDigit (b.toNat % 16)]

/-- What is written, the last character first; the characters on the last line; and how many of
them the last byte was written with. -/
structure Page where
  written : List Char := []
  column : Nat := 0
  last : Nat := 0

/-- Write a notation. A line that it does not fit on ends with an equals sign; if the line is full
already, its last notation goes to the next line to make room for the sign. -/
def Page.put (p : Page) (token : List Char) : Page :=
  let p :=
    if p.column + token.length ≤ lineLimit then p
    else if p.column = lineLimit then
      { p with
        written := p.written.take p.last ++ ['\n', '\r', '='] ++ p.written.drop p.last
        column := p.last }
    else { p with written := ['\n', '\r', '='] ++ p.written, column := 0 }
  { written := token.reverse ++ p.written, column := p.column + token.length, last := token.length }

/-- Write bytes. The end of a line stays; a carriage return alone is written as a notation. -/
def putBytes : Page → List UInt8 → Page
  | p, [] => p
  | p, 13 :: 10 :: bs => putBytes { p with written := '\n' :: '\r' :: p.written, column := 0 } bs
  | p, b :: bs => putBytes (p.put (tokenOf b)) bs

/-- Bytes in hexadecimal notation, where they need it. -/
def quotedPrintable (bytes : List UInt8) : List Char := (putBytes {} bytes).written.reverse

/-- A text in lines of 76 characters. -/
def inLines (count : Nat) : List Char → List Char
  | [] => []
  | c :: cs =>
    if count = lineLimit then '\r' :: '\n' :: c :: inLines 1 cs else c :: inLines (count + 1) cs

/-- Bytes as they are written in an encoding. -/
def written (bytes : List UInt8) : Encoding → List Char
  | .sevenBit => bytes.map fun b => Char.ofNat b.toNat
  | .quotedPrintable => quotedPrintable bytes
  | .base64 => inLines 0 (Text.Base64.encode bytes)

/-- A text with its encoding. The encoding is chosen before the ends of lines are changed. -/
def ofText (s : String) : Encoding × List Char :=
  let encoding := choose (Text.Base64.bytesOf s.toList)
  (encoding, written (Text.Base64.bytesOf (withReturns false s.toList)) encoding)

/-- Bytes with their encoding. -/
def ofBytes (bytes : List UInt8) : Encoding × List Char :=
  (choose bytes, written bytes (choose bytes))

end Mailroom.Mail.Transfer
