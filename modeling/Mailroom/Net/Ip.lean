import Mailroom.Text.Find

/-!
# Addresses of the internet protocol

The two versions of addresses, the texts that stand for them, and the one text in which each is
shown: bytes in decimal, groups in small hexadecimal digits without zeros in front, the first of
the longest runs of two or more empty groups as a double colon, and an address of the fourth
version within one of the sixth by its bytes.
-/

namespace Mailroom.Net

/-- An address: four bytes, or eight groups of sixteen bits. -/
inductive Ip where
  | fourth (bytes : List Nat)
  | sixth (groups : List Nat)
deriving DecidableEq, Repr

namespace Ip

/-- The value of a decimal digit. -/
def decimal? (c : Char) : Option Nat := if c.isDigit then some (c.toNat - '0'.toNat) else none

/-- The value of a hexadecimal digit. -/
def hexadecimal? (c : Char) : Option Nat :=
  if c.isDigit then some (c.toNat - '0'.toNat)
  else if 'a' ≤ c ∧ c ≤ 'f' then some (c.toNat - 'a'.toNat + 10)
  else if 'A' ≤ c ∧ c ≤ 'F' then some (c.toNat - 'A'.toNat + 10)
  else none

/-- A number of one to `most` digits. -/
def number? (base most : Nat) (digit? : Char → Option Nat) (cs : List Char) : Option Nat :=
  if cs.isEmpty ∨ most < cs.length then none
  else (cs.mapM digit?).map fun ds => ds.foldl (fun n d => n * base + d) 0

/-- A byte in decimal, without needless zeros. -/
def byte? (cs : List Char) : Option Nat :=
  if cs.head? = some '0' ∧ cs ≠ ['0'] then none
  else (number? 10 3 decimal? cs).filter (· ≤ 255)

/-- Four bytes between dots. -/
def bytes? (cs : List Char) : Option (List Nat) :=
  let parts := Text.splitAt '.' cs
  if parts.length = 4 then parts.mapM byte? else none

/-- A group of up to four hexadecimal digits. -/
def group? (cs : List Char) : Option Nat := number? 16 4 hexadecimal? cs

/-- Groups between colons. The last two may be written as four bytes. -/
def groups? : List (List Char) → Option (List Nat)
  | [] => some []
  | [last] =>
    match group? last, bytes? last with
    | some g, _ => some [g]
    | none, some [a, b, c, d] => some [a * 256 + b, c * 256 + d]
    | none, _ => none
  | part :: parts => do some ((← group? part) :: (← groups? parts))

/-- The groups on one side of a double colon. -/
def side? (cs : List Char) : Option (List Nat) :=
  if cs.isEmpty then some [] else groups? (Text.splitAt ':' cs)

/-- Eight groups, or fewer around one double colon. Bytes do not stand before a double colon. -/
def sixth? (cs : List Char) : Option (List Nat) :=
  match Text.splitOnce [':', ':'] cs with
  | none => (groups? (Text.splitAt ':' cs)).filter (·.length = 8)
  | some (before, behind) => do
    if before.contains '.' then none
    let front ← side? before
    let back ← side? behind
    if 7 < front.length + back.length then none
    some (front ++ List.replicate (8 - front.length - back.length) 0 ++ back)

/-- The address that a text stands for. -/
def ofText? (cs : List Char) : Option Ip :=
  (bytes? cs).map .fourth <|> (sixth? cs).map .sixth

/-- Bytes between dots. -/
def bytesText (bytes : List Nat) : String := ".".intercalate (bytes.map toString)

/-- Groups between colons. -/
def groupsText (groups : List Nat) : String :=
  ":".intercalate (groups.map fun g => String.ofList (Nat.toDigits 16 g))

/-- The length of the run of empty groups at the front. -/
def emptyRun (groups : List Nat) : Nat := (groups.takeWhile (· = 0)).length

/-- Where the first of the longest runs of empty groups begins. -/
def longestRun (groups : List Nat) : Nat :=
  (List.range groups.length).foldl (fun best n =>
    if emptyRun (groups.drop best) < emptyRun (groups.drop n) then n else best) 0

/-- The text of an address. -/
def text : Ip → String
  | .fourth bytes => bytesText bytes
  | .sixth groups =>
    match groups with
    | [0, 0, 0, 0, 0, 0xFFFF, g, h] =>
      "::ffff:" ++ bytesText [g / 256, g % 256, h / 256, h % 256]
    | _ =>
      let start := longestRun groups
      let count := emptyRun (groups.drop start)
      if count < 2 then groupsText groups
      else groupsText (groups.take start) ++ "::" ++ groupsText (groups.drop (start + count))

/-- The address in front of a port, which stands in brackets when it holds colons. -/
def ofPeer? (peer : String) : Option Ip :=
  let cs := peer.toList
  match cs with
  | '[' :: inner => (Text.splitOnce [']'] inner).bind fun p => (sixth? p.1).map .sixth
  | _ => (Text.splitOnce [':'] cs).bind fun p => (bytes? p.1).map .fourth

end Ip

end Mailroom.Net
