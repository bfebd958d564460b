/-!
# Base 64

Bytes as characters of an alphabet of 64, four for every three bytes, with signs of equality in the
place of bytes that are missing at the end.
-/

namespace Mailroom.Text.Base64

/-- The character of a value below 64. -/
def digit (n : Nat) : Char :=
  if n < 26 then Char.ofNat (65 + n)
  else if n < 52 then Char.ofNat (71 + n)
  else if n < 62 then Char.ofNat (n - 4)
  else if n = 62 then '+'
  else '/'

/-- Four characters for three bytes. -/
def encode : List UInt8 → List Char
  | [] => []
  | [a] =>
    let n := a.toNat * 16
    [digit (n / 64), digit (n % 64), '=', '=']
  | [a, b] =>
    let n := a.toNat * 1024 + b.toNat * 4
    [digit (n / 4096), digit (n / 64 % 64), digit (n % 64), '=']
  | a :: b :: c :: rest =>
    let n := a.toNat * 65536 + b.toNat * 256 + c.toNat
    digit (n / 262144) :: digit (n / 4096 % 64) :: digit (n / 64 % 64) :: digit (n % 64)
      :: encode rest

/-- The value of a character of the alphabet. -/
def value? (c : Char) : Option Nat :=
  if 'A' ≤ c ∧ c ≤ 'Z' then some (c.toNat - 65)
  else if 'a' ≤ c ∧ c ≤ 'z' then some (c.toNat - 71)
  else if '0' ≤ c ∧ c ≤ '9' then some (c.toNat + 4)
  else if c = '+' then some 62
  else if c = '/' then some 63
  else none

/-- What keeps bytes from being base 64: one that has no place where it stands, a last character
alone, one with bits that stand for nothing, or signs of equality that are missing at the end. The
first and the third name the byte and its place. -/
inductive Flaw where
  | strayByte (byte : UInt8) (offset : Nat)
  | loneByte (offset : Nat)
  | spareBits (byte : UInt8) (offset : Nat)
  | padding
deriving DecidableEq, Repr

/-- The wording of a flaw. -/
def Flaw.message : Flaw → String
  | .strayByte byte offset => s!"Invalid symbol {byte.toNat}, offset {offset}."
  | .loneByte offset => s!"Invalid input length: {offset}"
  | .spareBits byte offset => s!"Invalid last symbol {byte.toNat}, offset {offset}."
  | .padding => "Invalid padding"

/-- The sign of equality. -/
def filler : UInt8 := 61

/-- The value of a byte at its place. -/
def valueAt (offset : Nat) (b : UInt8) : Except Flaw Nat :=
  match value? (Char.ofNat b.toNat) with
  | some n => .ok n
  | none => .error (.strayByte b offset)

/-- The values of bytes that begin at a place. -/
def valuesAt : Nat → List UInt8 → Except Flaw (List Nat)
  | _, [] => .ok []
  | offset, b :: bs => do
    let n ← valueAt offset b
    return n :: (← valuesAt (offset + 1) bs)

/-- The bytes of the last group, which begins at a place and may be cut short by signs of
equality. -/
def decodeLast (offset : Nat) (bs : List UInt8) : Except Flaw (List UInt8) := do
  let data := bs.takeWhile (· != filler)
  let fillers := bs.dropWhile (· != filler)
  let values ← valuesAt offset data
  if fillers ≠ [] ∧ (data.length < 2 ∨ fillers.any (· != filler)) then
    throw (.strayByte filler (offset + data.length))
  if data.length = 1 then throw (.loneByte (offset + 1))
  if (data.length + fillers.length) % 4 ≠ 0 then throw .padding
  let spare := .spareBits (data.getLastD 0) (offset + data.length - 1)
  match values with
  | [a, b] =>
    let n := a * 64 + b
    if n % 16 ≠ 0 then throw spare
    return [UInt8.ofNat (n / 16)]
  | [a, b, c] =>
    let n := a * 4096 + b * 64 + c
    if n % 4 ≠ 0 then throw spare
    return [UInt8.ofNat (n / 1024), UInt8.ofNat (n / 4 % 256)]
  | [a, b, c, d] =>
    let n := a * 262144 + b * 4096 + c * 64 + d
    return [UInt8.ofNat (n / 65536), UInt8.ofNat (n / 256 % 256), UInt8.ofNat (n % 256)]
  | _ => return []

/-- The bytes of groups of four that begin at a place. -/
def decodeFrom (offset : Nat) : List UInt8 → Except Flaw (List UInt8)
  | a :: b :: c :: d :: e :: rest => do
    let values ← valuesAt offset [a, b, c, d]
    let n := values.foldl (fun n v => n * 64 + v) 0
    let bytes ← decodeFrom (offset + 4) (e :: rest)
    return UInt8.ofNat (n / 65536) :: UInt8.ofNat (n / 256 % 256) :: UInt8.ofNat (n % 256) :: bytes
  | bs => decodeLast offset bs

/-- The bytes that base 64 stands for. A byte behind the last whole group is looked at first. -/
def decode (bs : List UInt8) : Except Flaw (List UInt8) := do
  if bs.length % 4 = 1 ∧ bs.getLastD filler ≠ filler then
    discard (valueAt (bs.length - 1) (bs.getLastD filler))
  decodeFrom 0 bs

/-- The bytes of a text. -/
def bytesOf (cs : List Char) : List UInt8 := cs.flatMap String.utf8EncodeChar

end Mailroom.Text.Base64
